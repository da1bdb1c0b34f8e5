/-
X86Gloss/Mnemonic.lean

The mnemonics that the library knows, among them `invalid` for every spelling that it does
not know. Only some of them have a statement; the rules say which.
-/
import X86Gloss.Text.Blank
import X86Gloss.Text.Case

namespace X86Gloss

/-- An instruction mnemonic. -/
inductive Mnemonic where
  -- Stands for every unknown spelling.
  | invalid
  -- Data movement and integer arithmetic.
  | mov | lea | add | sub | and | or | xor | inc | dec | neg | not | imul | shl | shr | sar | push
  | pop | xchg | movzx | movsx | nop | int3 | leave
  -- Comparison.
  | test | cmp
  -- Control transfer.
  | call | ret | jmp | jb | jbe | jcxz | jecxz | jrcxz | jl | jle | jnb | jnbe | jnl | jnle | jno
  | jnp | jns | jnz | jo | jp | js | jz | loop
  -- Bound registers.
  | bndmk | bndldx | bndstx
  -- Vector moves, aligned.
  | movaps | movapd | vmovdqa | vmovdqa32 | vmovdqa64
  -- Vector moves, unaligned.
  | movups | movupd | movq | lddqu | vmovd | vmovdqu | vmovdqu8 | vmovdqu16 | vmovdqu32
  | vmovdqu64 | movdqa | movdqu
  -- Vector bitwise logic.
  | pand | vpand | vpandq | vpandd | pandn | vpandn | vpandnq | vpandnd | por | vpor | vpord
  | vporq | pxor
  -- Vector compares.
  | pcmpeqb | pcmpeqw | pcmpeqd | pcmpeqq | vpcmpeqb | vpcmpeqw | vpcmpeqd | vpcmpeqq | pcmpgtb
  | pcmpgtw | pcmpgtd | pcmpgtq | vpcmpgtb | vpcmpgtw | vpcmpgtd | vpcmpgtq
  -- Vector packs.
  | packuswb | packusdw | vpackuswb | vpackusdw | packsswb | packssdw | vpacksswb | vpackssdw
  -- Vector integer arithmetic.
  | paddb | paddw | paddd | paddq | vpaddb | vpaddw | vpaddd | vpaddq | paddsb | paddsw | vpaddsb
  | vpaddsw | pmaddwd | vpmaddwd | pmulhw | vpmulhw | pmullw | vpmullw | pabsb | vpabsb | pabsw
  | vpabsw | pabsd | vpabsd | pavgb | vpavgb | pavgw | vpavgw | palignr | vpalignr | emms
  -- Vector floating point.
  | addsubps | vaddsubps | addsubpd | vaddsubpd
  -- Blends.
  | pblendw | vpblendw | pblendvb | vpblendvb | vpblendd | blendps | vblendps | blendpd | vblendpd
  | blendvps | vblendvps | blendvpd | vblendvpd
  -- Broadcasts.
  | vbroadcastf128 | vbroadcastf32x2 | vbroadcastf32x4 | vbroadcastf32x8 | vbroadcastf64x2
  | vbroadcastf64x4 | vbroadcasti128 | vbroadcasti32x2 | vbroadcasti32x4 | vbroadcasti32x8
  | vbroadcasti64x2 | vbroadcasti64x4 | vbroadcastsd | vbroadcastss | vpbroadcastb | vpbroadcastw
  | vpbroadcastd | vpbroadcastq | vpbroadcastmb2q | vpbroadcastmw2d
deriving DecidableEq

namespace Mnemonic

/-- Every mnemonic, in the order of the declaration. -/
def all : List Mnemonic := [
  .invalid, .mov, .lea, .add, .sub, .and, .or, .xor, .inc, .dec, .neg, .not, .imul, .shl, .shr,
  .sar, .push, .pop, .xchg, .movzx, .movsx, .nop, .int3, .leave, .test, .cmp, .call, .ret, .jmp,
  .jb, .jbe, .jcxz, .jecxz, .jrcxz, .jl, .jle, .jnb, .jnbe, .jnl, .jnle, .jno, .jnp, .jns, .jnz,
  .jo, .jp, .js, .jz, .loop, .bndmk, .bndldx, .bndstx, .movaps, .movapd, .vmovdqa, .vmovdqa32,
  .vmovdqa64, .movups, .movupd, .movq, .lddqu, .vmovd, .vmovdqu, .vmovdqu8, .vmovdqu16,
  .vmovdqu32, .vmovdqu64, .movdqa, .movdqu, .pand, .vpand, .vpandq, .vpandd, .pandn, .vpandn,
  .vpandnq, .vpandnd, .por, .vpor, .vpord, .vporq, .pxor, .pcmpeqb, .pcmpeqw, .pcmpeqd, .pcmpeqq,
  .vpcmpeqb, .vpcmpeqw, .vpcmpeqd, .vpcmpeqq, .pcmpgtb, .pcmpgtw, .pcmpgtd, .pcmpgtq, .vpcmpgtb,
  .vpcmpgtw, .vpcmpgtd, .vpcmpgtq, .packuswb, .packusdw, .vpackuswb, .vpackusdw, .packsswb,
  .packssdw, .vpacksswb, .vpackssdw, .paddb, .paddw, .paddd, .paddq, .vpaddb, .vpaddw, .vpaddd,
  .vpaddq, .paddsb, .paddsw, .vpaddsb, .vpaddsw, .pmaddwd, .vpmaddwd, .pmulhw, .vpmulhw, .pmullw,
  .vpmullw, .pabsb, .vpabsb, .pabsw, .vpabsw, .pabsd, .vpabsd, .pavgb, .vpavgb, .pavgw, .vpavgw,
  .palignr, .vpalignr, .emms, .addsubps, .vaddsubps, .addsubpd, .vaddsubpd, .pblendw, .vpblendw,
  .pblendvb, .vpblendvb, .vpblendd, .blendps, .vblendps, .blendpd, .vblendpd, .blendvps,
  .vblendvps, .blendvpd, .vblendvpd, .vbroadcastf128, .vbroadcastf32x2, .vbroadcastf32x4,
  .vbroadcastf32x8, .vbroadcastf64x2, .vbroadcastf64x4, .vbroadcasti128, .vbroadcasti32x2,
  .vbroadcasti32x4, .vbroadcasti32x8, .vbroadcasti64x2, .vbroadcasti64x4, .vbroadcastsd,
  .vbroadcastss, .vpbroadcastb, .vpbroadcastw, .vpbroadcastd, .vpbroadcastq, .vpbroadcastmb2q,
  .vpbroadcastmw2d]

/-- The assembler spelling. -/
def text : Mnemonic → String
  | .invalid => "invalid"
  | .mov => "mov"
  | .lea => "lea"
  | .add => "add"
  | .sub => "sub"
  | .and => "and"
  | .or => "or"
  | .xor => "xor"
  | .inc => "inc"
  | .dec => "dec"
  | .neg => "neg"
  | .not => "not"
  | .imul => "imul"
  | .shl => "shl"
  | .shr => "shr"
  | .sar => "sar"
  | .push => "push"
  | .pop => "pop"
  | .xchg => "xchg"
  | .movzx => "movzx"
  | .movsx => "movsx"
  | .nop => "nop"
  | .int3 => "int3"
  | .leave => "leave"
  | .test => "test"
  | .cmp => "cmp"
  | .call => "call"
  | .ret => "ret"
  | .jmp => "jmp"
  | .jb => "jb"
  | .jbe => "jbe"
  | .jcxz => "jcxz"
  | .jecxz => "jecxz"
  | .jrcxz => "jrcxz"
  | .jl => "jl"
  | .jle => "jle"
  | .jnb => "jnb"
  | .jnbe => "jnbe"
  | .jnl => "jnl"
  | .jnle => "jnle"
  | .jno => "jno"
  | .jnp => "jnp"
  | .jns => "jns"
  | .jnz => "jnz"
  | .jo => "jo"
  | .jp => "jp"
  | .js => "js"
  | .jz => "jz"
  | .loop => "loop"
  | .bndmk => "bndmk"
  | .bndldx => "bndldx"
  | .bndstx => "bndstx"
  | .movaps => "movaps"
  | .movapd => "movapd"
  | .vmovdqa => "vmovdqa"
  | .vmovdqa32 => "vmovdqa32"
  | .vmovdqa64 => "vmovdqa64"
  | .movups => "movups"
  | .movupd => "movupd"
  | .movq => "movq"
  | .lddqu => "lddqu"
  | .vmovd => "vmovd"
  | .vmovdqu => "vmovdqu"
  | .vmovdqu8 => "vmovdqu8"
  | .vmovdqu16 => "vmovdqu16"
  | .vmovdqu32 => "vmovdqu32"
  | .vmovdqu64 => "vmovdqu64"
  | .movdqa => "movdqa"
  | .movdqu => "movdqu"
  | .pand => "pand"
  | .vpand => "vpand"
  | .vpandq => "vpandq"
  | .vpandd => "vpandd"
  | .pandn => "pandn"
  | .vpandn => "vpandn"
  | .vpandnq => "vpandnq"
  | .vpandnd => "vpandnd"
  | .por => "por"
  | .vpor => "vpor"
  | .vpord => "vpord"
  | .vporq => "vporq"
  | .pxor => "pxor"
  | .pcmpeqb => "pcmpeqb"
  | .pcmpeqw => "pcmpeqw"
  | .pcmpeqd => "pcmpeqd"
  | .pcmpeqq => "pcmpeqq"
  | .vpcmpeqb => "vpcmpeqb"
  | .vpcmpeqw => "vpcmpeqw"
  | .vpcmpeqd => "vpcmpeqd"
  | .vpcmpeqq => "vpcmpeqq"
  | .pcmpgtb => "pcmpgtb"
  | .pcmpgtw => "pcmpgtw"
  | .pcmpgtd => "pcmpgtd"
  | .pcmpgtq => "pcmpgtq"
  | .vpcmpgtb => "vpcmpgtb"
  | .vpcmpgtw => "vpcmpgtw"
  | .vpcmpgtd => "vpcmpgtd"
  | .vpcmpgtq => "vpcmpgtq"
  | .packuswb => "packuswb"
  | .packusdw => "packusdw"
  | .vpackuswb => "vpackuswb"
  | .vpackusdw => "vpackusdw"
  | .packsswb => "packsswb"
  | .packssdw => "packssdw"
  | .vpacksswb => "vpacksswb"
  | .vpackssdw => "vpackssdw"
  | .paddb => "paddb"
  | .paddw => "paddw"
  | .paddd => "paddd"
  | .paddq => "paddq"
  | .vpaddb => "vpaddb"
  | .vpaddw => "vpaddw"
  | .vpaddd => "vpaddd"
  | .vpaddq => "vpaddq"
  | .paddsb => "paddsb"
  | .paddsw => "paddsw"
  | .vpaddsb => "vpaddsb"
  | .vpaddsw => "vpaddsw"
  | .pmaddwd => "pmaddwd"
  | .vpmaddwd => "vpmaddwd"
  | .pmulhw => "pmulhw"
  | .vpmulhw => "vpmulhw"
  | .pmullw => "pmullw"
  | .vpmullw => "vpmullw"
  | .pabsb => "pabsb"
  | .vpabsb => "vpabsb"
  | .pabsw => "pabsw"
  | .vpabsw => "vpabsw"
  | .pabsd => "pabsd"
  | .vpabsd => "vpabsd"
  | .pavgb => "pavgb"
  | .vpavgb => "vpavgb"
  | .pavgw => "pavgw"
  | .vpavgw => "vpavgw"
  | .palignr => "palignr"
  | .vpalignr => "vpalignr"
  | .emms => "emms"
  | .addsubps => "addsubps"
  | .vaddsubps => "vaddsubps"
  | .addsubpd => "addsubpd"
  | .vaddsubpd => "vaddsubpd"
  | .pblendw => "pblendw"
  | .vpblendw => "vpblendw"
  | .pblendvb => "pblendvb"
  | .vpblendvb => "vpblendvb"
  | .vpblendd => "vpblendd"
  | .blendps => "blendps"
  | .vblendps => "vblendps"
  | .blendpd => "blendpd"
  | .vblendpd => "vblendpd"
  | .blendvps => "blendvps"
  | .vblendvps => "vblendvps"
  | .blendvpd => "blendvpd"
  | .vblendvpd => "vblendvpd"
  | .vbroadcastf128 => "vbroadcastf128"
  | .vbroadcastf32x2 => "vbroadcastf32x2"
  | .vbroadcastf32x4 => "vbroadcastf32x4"
  | .vbroadcastf32x8 => "vbroadcastf32x8"
  | .vbroadcastf64x2 => "vbroadcastf64x2"
  | .vbroadcastf64x4 => "vbroadcastf64x4"
  | .vbroadcasti128 => "vbroadcasti128"
  | .vbroadcasti32x2 => "vbroadcasti32x2"
  | .vbroadcasti32x4 => "vbroadcasti32x4"
  | .vbroadcasti32x8 => "vbroadcasti32x8"
  | .vbroadcasti64x2 => "vbroadcasti64x2"
  | .vbroadcasti64x4 => "vbroadcasti64x4"
  | .vbroadcastsd => "vbroadcastsd"
  | .vbroadcastss => "vbroadcastss"
  | .vpbroadcastb => "vpbroadcastb"
  | .vpbroadcastw => "vpbroadcastw"
  | .vpbroadcastd => "vpbroadcastd"
  | .vpbroadcastq => "vpbroadcastq"
  | .vpbroadcastmb2q => "vpbroadcastmb2q"
  | .vpbroadcastmw2d => "vpbroadcastmw2d"

/-- The mnemonic with a spelling, when there is one. -/
def withText? (spelling : String) : Option Mnemonic := all.find? (·.text = spelling)

/-- The mnemonic of a spelling in any case, with blanks around it; `invalid` if it is unknown. -/
def ofText (spelling : String) : Mnemonic :=
  (withText? (lowerCase (trimBlanks spelling))).getD .invalid

/-- No mnemonic is left out of the list. -/
theorem mem_all (mnemonic : Mnemonic) : mnemonic ∈ all := by
  cases mnemonic <;> decide

end Mnemonic

end X86Gloss
