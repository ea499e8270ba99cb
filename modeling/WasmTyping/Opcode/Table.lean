import WasmTyping.Opcode

/-!
# The opcode table

Every opcode whose typing is a fixed signature, grouped by what it works on. The
order of the table is the order in which opcodes are listed and looked up.
-/

set_option autoImplicit false

namespace WasmTyping

namespace Opcode

def integer32 : List Opcode :=
  numeric ["i32.eqz", "i32.clz", "i32.ctz", "i32.popcnt"] [.i32] .i32 ++
  numeric ["i32.add", "i32.sub", "i32.mul", "i32.div_s", "i32.div_u", "i32.rem_s", "i32.rem_u",
    "i32.and", "i32.or", "i32.xor", "i32.shl", "i32.shr_s", "i32.shr_u", "i32.rotl",
    "i32.rotr", "i32.eq", "i32.ne", "i32.lt_s", "i32.lt_u", "i32.gt_s", "i32.gt_u", "i32.le_s",
    "i32.le_u", "i32.ge_s", "i32.ge_u"] [.i32, .i32] .i32

def integer64 : List Opcode :=
  numeric ["i64.eqz"] [.i64] .i32 ++
  numeric ["i64.clz", "i64.ctz", "i64.popcnt"] [.i64] .i64 ++
  numeric ["i64.add", "i64.sub", "i64.mul", "i64.div_s", "i64.div_u", "i64.rem_s", "i64.rem_u",
    "i64.and", "i64.or", "i64.xor", "i64.shl", "i64.shr_s", "i64.shr_u", "i64.rotl", "i64.rotr"]
    [.i64, .i64] .i64 ++
  numeric ["i64.eq", "i64.ne", "i64.lt_s", "i64.lt_u", "i64.gt_s", "i64.gt_u", "i64.le_s",
    "i64.le_u", "i64.ge_s", "i64.ge_u"] [.i64, .i64] .i32

def float32 : List Opcode :=
  numeric ["f32.abs", "f32.neg", "f32.ceil", "f32.floor", "f32.trunc", "f32.nearest",
    "f32.sqrt"] [.f32] .f32 ++
  numeric ["f32.add", "f32.sub", "f32.mul", "f32.div", "f32.min", "f32.max", "f32.copysign"]
    [.f32, .f32] .f32 ++
  numeric ["f32.eq", "f32.ne", "f32.lt", "f32.gt", "f32.le", "f32.ge"] [.f32, .f32] .i32

def float64 : List Opcode :=
  numeric ["f64.abs", "f64.neg", "f64.ceil", "f64.floor", "f64.trunc", "f64.nearest",
    "f64.sqrt"] [.f64] .f64 ++
  numeric ["f64.add", "f64.sub", "f64.mul", "f64.div", "f64.min", "f64.max", "f64.copysign"]
    [.f64, .f64] .f64 ++
  numeric ["f64.eq", "f64.ne", "f64.lt", "f64.gt", "f64.le", "f64.ge"] [.f64, .f64] .i32

def conversions : List Opcode :=
  numeric ["i32.wrap_i64"] [.i64] .i32 ++
  numeric ["i32.trunc_f32_s", "i32.trunc_f32_u"] [.f32] .i32 ++
  numeric ["i32.trunc_f64_s", "i32.trunc_f64_u"] [.f64] .i32 ++
  numeric ["i64.extend_i32_s", "i64.extend_i32_u"] [.i32] .i64 ++
  numeric ["i64.trunc_f32_s", "i64.trunc_f32_u"] [.f32] .i64 ++
  numeric ["i64.trunc_f64_s", "i64.trunc_f64_u"] [.f64] .i64 ++
  numeric ["f32.convert_i32_s", "f32.convert_i32_u"] [.i32] .f32 ++
  numeric ["f32.convert_i64_s", "f32.convert_i64_u"] [.i64] .f32 ++
  numeric ["f32.demote_f64"] [.f64] .f32 ++
  numeric ["f64.convert_i32_s", "f64.convert_i32_u"] [.i32] .f64 ++
  numeric ["f64.convert_i64_s", "f64.convert_i64_u"] [.i64] .f64 ++
  numeric ["f64.promote_f32"] [.f32] .f64 ++
  numeric ["i32.reinterpret_f32"] [.f32] .i32 ++
  numeric ["i64.reinterpret_f64"] [.f64] .i64 ++
  numeric ["f32.reinterpret_i32"] [.i32] .f32 ++
  numeric ["f64.reinterpret_i64"] [.i64] .f64

def signExtensions : List Opcode :=
  numeric ["i32.extend8_s", "i32.extend16_s"] [.i32] .i32 ++
  numeric ["i64.extend8_s", "i64.extend16_s", "i64.extend32_s"] [.i64] .i64

/-- Float to integer conversions that clamp. -/
def saturatingTruncations : List Opcode :=
  numeric ["i32.trunc_sat_f32_s", "i32.trunc_sat_f32_u"] [.f32] .i32 ++
  numeric ["i32.trunc_sat_f64_s", "i32.trunc_sat_f64_u"] [.f64] .i32 ++
  numeric ["i64.trunc_sat_f32_s", "i64.trunc_sat_f32_u"] [.f32] .i64 ++
  numeric ["i64.trunc_sat_f64_s", "i64.trunc_sat_f64_u"] [.f64] .i64

def loads : List Opcode :=
  access 4 ["i32.load"] [] (some .i32) ++
  access 8 ["i64.load"] [] (some .i64) ++
  access 4 ["f32.load"] [] (some .f32) ++
  access 8 ["f64.load"] [] (some .f64) ++
  access 1 ["i32.load8_s", "i32.load8_u"] [] (some .i32) ++
  access 2 ["i32.load16_s", "i32.load16_u"] [] (some .i32) ++
  access 1 ["i64.load8_s", "i64.load8_u"] [] (some .i64) ++
  access 2 ["i64.load16_s", "i64.load16_u"] [] (some .i64) ++
  access 4 ["i64.load32_s", "i64.load32_u"] [] (some .i64) ++
  access 16 ["v128.load"] [] (some .v128) ++
  access 1 ["v128.load8_splat"] [] (some .v128) ++
  access 2 ["v128.load16_splat"] [] (some .v128) ++
  access 4 ["v128.load32_splat"] [] (some .v128) ++
  access 8 ["v128.load64_splat"] [] (some .v128) ++
  access 4 ["v128.load32_zero"] [] (some .v128) ++
  access 8 ["v128.load64_zero"] [] (some .v128)

def stores : List Opcode :=
  access 4 ["i32.store"] [.i32] none ++
  access 8 ["i64.store"] [.i64] none ++
  access 4 ["f32.store"] [.f32] none ++
  access 8 ["f64.store"] [.f64] none ++
  access 1 ["i32.store8"] [.i32] none ++
  access 2 ["i32.store16"] [.i32] none ++
  access 1 ["i64.store8"] [.i64] none ++
  access 2 ["i64.store16"] [.i64] none ++
  access 4 ["i64.store32"] [.i64] none ++
  access 16 ["v128.store"] [.v128] none

def laneSelections : List Opcode :=
  lanewise 16 ["i8x16.extract_lane_s", "i8x16.extract_lane_u"] [.v128] .i32 ++
  lanewise 16 ["i8x16.replace_lane"] [.v128, .i32] .v128 ++
  lanewise 8 ["i16x8.extract_lane_s", "i16x8.extract_lane_u"] [.v128] .i32 ++
  lanewise 8 ["i16x8.replace_lane"] [.v128, .i32] .v128 ++
  lanewise 4 ["i32x4.extract_lane"] [.v128] .i32 ++
  lanewise 4 ["i32x4.replace_lane"] [.v128, .i32] .v128 ++
  lanewise 2 ["i64x2.extract_lane"] [.v128] .i64 ++
  lanewise 2 ["i64x2.replace_lane"] [.v128, .i64] .v128 ++
  lanewise 4 ["f32x4.extract_lane"] [.v128] .f32 ++
  lanewise 4 ["f32x4.replace_lane"] [.v128, .f32] .v128 ++
  lanewise 2 ["f64x2.extract_lane"] [.v128] .f64 ++
  lanewise 2 ["f64x2.replace_lane"] [.v128, .f64] .v128 ++
  lanewise 16 ["i8x16.shuffle", "i8x16.swizzle"] [.v128, .v128] .v128

/-- Vectors with all lanes equal. -/
def splats : List Opcode :=
  lanewise 16 ["i8x16.splat"] [.i32] .v128 ++
  lanewise 8 ["i16x8.splat"] [.i32] .v128 ++
  lanewise 4 ["i32x4.splat"] [.i32] .v128 ++
  lanewise 2 ["i64x2.splat"] [.i64] .v128 ++
  lanewise 4 ["f32x4.splat"] [.f32] .v128 ++
  lanewise 2 ["f64x2.splat"] [.f64] .v128

def vectorArithmetic : List Opcode :=
  numeric ["v128.not"] [.v128] .v128 ++
  numeric ["v128.and", "v128.or", "v128.xor"] [.v128, .v128] .v128 ++
  numeric ["v128.bitselect"] [.v128, .v128, .v128] .v128 ++
  numeric ["v128.any_true"] [.v128] .i32 ++
  lanewise 16 ["i8x16.abs", "i8x16.neg"] [.v128] .v128 ++
  lanewise 16 ["i8x16.all_true"] [.v128] .i32 ++
  lanewise 16 ["i8x16.eq", "i8x16.add", "i8x16.sub"] [.v128, .v128] .v128 ++
  lanewise 8 ["i16x8.add", "i16x8.sub", "i16x8.mul"] [.v128, .v128] .v128 ++
  lanewise 4 ["i32x4.eq", "i32x4.add", "i32x4.sub", "i32x4.mul"] [.v128, .v128] .v128 ++
  lanewise 4 ["i32x4.shl"] [.v128, .i32] .v128 ++
  lanewise 2 ["i64x2.add", "i64x2.sub"] [.v128, .v128] .v128 ++
  lanewise 4 ["f32x4.eq"] [.v128, .v128] .v128 ++
  lanewise 4 ["f32x4.neg", "f32x4.sqrt"] [.v128] .v128 ++
  lanewise 4 ["f32x4.add", "f32x4.sub", "f32x4.mul", "f32x4.div"] [.v128, .v128] .v128 ++
  lanewise 2 ["f64x2.add", "f64x2.sub", "f64x2.mul", "f64x2.div"] [.v128, .v128] .v128

def laneAccesses : List Opcode :=
  laneAccess 1 ["v128.load8_lane"] (some .v128) ++
  laneAccess 2 ["v128.load16_lane"] (some .v128) ++
  laneAccess 4 ["v128.load32_lane"] (some .v128) ++
  laneAccess 8 ["v128.load64_lane"] (some .v128) ++
  laneAccess 1 ["v128.store8_lane"] none ++
  laneAccess 2 ["v128.store16_lane"] none ++
  laneAccess 4 ["v128.store32_lane"] none ++
  laneAccess 8 ["v128.store64_lane"] none

def atomics : List Opcode :=
  atomicAccess 4 ["memory.atomic.notify"] [.i32] (some .i32) ++
  atomicAccess 4 ["memory.atomic.wait32"] [.i32, .i64] (some .i32) ++
  atomicAccess 8 ["memory.atomic.wait64"] [.i64, .i64] (some .i32) ++
  atomicAccess 4 ["i32.atomic.load"] [] (some .i32) ++
  atomicAccess 8 ["i64.atomic.load"] [] (some .i64) ++
  atomicAccess 1 ["i32.atomic.load8_u"] [] (some .i32) ++
  atomicAccess 2 ["i32.atomic.load16_u"] [] (some .i32) ++
  atomicAccess 4 ["i32.atomic.store"] [.i32] none ++
  atomicAccess 8 ["i64.atomic.store"] [.i64] none ++
  atomicAccess 1 ["i32.atomic.store8"] [.i32] none ++
  atomicAccess 4 ["i32.atomic.rmw.add"] [.i32] (some .i32) ++
  atomicAccess 8 ["i64.atomic.rmw.add"] [.i64] (some .i64) ++
  atomicAccess 4 ["i32.atomic.rmw.sub"] [.i32] (some .i32) ++
  atomicAccess 8 ["i64.atomic.rmw.sub"] [.i64] (some .i64) ++
  atomicAccess 4 ["i32.atomic.rmw.xchg"] [.i32] (some .i32) ++
  atomicAccess 8 ["i64.atomic.rmw.xchg"] [.i64] (some .i64) ++
  atomicAccess 4 ["i32.atomic.rmw.cmpxchg"] [.i32, .i32] (some .i32) ++
  atomicAccess 8 ["i64.atomic.rmw.cmpxchg"] [.i64, .i64] (some .i64)

def all : List Opcode :=
  integer32 ++ integer64 ++ float32 ++ float64 ++ conversions ++ signExtensions ++
    saturatingTruncations ++ loads ++ stores ++ laneSelections ++ splats ++
    vectorArithmetic ++ laneAccesses ++ atomics

def ofName? (name : String) : Option Opcode :=
  all.find? fun op => op.name == name

end Opcode

end WasmTyping
