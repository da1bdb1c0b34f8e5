/-
X86Gloss/Rule/Standard.lean

The standard rule table: assignments, comparisons, transfers of control, vector moves and
vector operations. Every mnemonic that the standard table lists has a rule.
-/
import X86Gloss.Rule

namespace X86Gloss

/-- The rule that an instruction is told by, unless the caller brings a table of their own. -/
def standardRule? : Mnemonic → Option Rule
  -- Assignments.
  | .mov => some (.assign " = ")
  | .lea => some (.assign " = &")
  | .sub => some (.assign " -= ")
  | .add => some (.assign " += ")
  | .and => some (.assign " &= ")
  | .or => some (.assign " |= ")
  -- Comparisons.
  | .test => some (.compare "carry_flag, parity_flag, zero_flag")
  | .cmp =>
    some (.compare
      "carry_flag, overflow_flag, signed_flag, zero_flag, aux_carry_flag and parity_flag")
  -- Unconditional control transfer.
  | .call => some { template := .call }
  | .jmp => some { template := .jump }
  -- Conditional branches.
  | .jb => some (.notedBranch "carry_flag" "if below")
  | .jbe => some (.notedBranch "carry_flag || zero_flag" "if below or equal")
  | .jcxz => some (.branch "(u16)c == 0")
  | .jecxz => some (.branch "(u32)c == 0")
  | .jrcxz => some (.branch "(u64)c == 0")
  | .jl => some (.notedBranch "sign_flag != overflow_flag" "if less")
  | .jle => some (.notedBranch "zero_flag || sign_flag != overflow_flag" "if less or equal")
  | .jnb => some (.notedBranch "!carry_flag" "if not below")
  | .jnbe => some (.notedBranch "!carry_flag && !zero_flag" "if not below or equal")
  | .jnl => some (.notedBranch "sign_flag == overflow_flag" "if not less")
  | .jnle => some (.notedBranch "!zero_flag && sign_flag == overflow_flag" "if not less or equal")
  | .jno => some (.branch "!overflow_flag")
  | .jnp => some (.branch "!parity_flag")
  | .jns => some (.branch "!sign_flag")
  | .jnz => some (.notedBranch "!zero_flag" "if not zero / not equal")
  | .jo => some (.branch "overflow_flag")
  | .jp => some (.branch "parity_flag")
  | .js => some (.branch "sign_flag")
  | .jz => some (.notedBranch "zero_flag" "if zero / equal")
  -- Aligned vector moves.
  | .movaps => some (.moveAligned "_ps")
  | .movapd => some (.moveAligned "_pd")
  | .vmovdqa => some (.moveAligned "_si")
  | .vmovdqa32 => some (.moveAligned "_epi32")
  | .vmovdqa64 => some (.moveAligned "_epi64")
  -- Unaligned vector moves.
  | .movups => some (.moveAnywhere "_ps")
  | .movupd => some (.moveAnywhere "_pd")
  | .movq => some (.moveAnywhere "_si64")
  | .lddqu => some (.moveAnywhere "_cross_cache_line_si")
  | .vmovd => some (.moveAnywhere "_si32")
  | .vmovdqu => some (.moveAnywhere "_si")
  | .vmovdqu8 => some (.moveAnywhere "_epi8")
  | .vmovdqu16 => some (.moveAnywhere "_epi16")
  | .vmovdqu32 => some (.moveAnywhere "_epi32")
  | .vmovdqu64 => some (.moveAnywhere "_epi64")
  -- Vector operations: bitwise and, andnot, or.
  | .pand | .vpand => some (.vector "_mm_and_si")
  | .vpandq => some (.vector "_mm_and_epi64")
  | .vpandd => some (.vector "_mm_and_epi32")
  | .pandn | .vpandn => some (.vector "_mm_andnot_si")
  | .vpandnq => some (.vector "_mm_andnot_epi64")
  | .vpandnd => some (.vector "_mm_andnot_epi32")
  | .por | .vpor => some (.vector "_mm_or_si")
  | .vpord => some (.vector "_mm_or_epi32")
  | .vporq => some (.vector "_mm_or_epi64")
  -- Vector operations: compares.
  | .pcmpeqb | .vpcmpeqb => some (.vector "_mm_cmpeq_epi8")
  | .pcmpeqw | .vpcmpeqw => some (.vector "_mm_cmpeq_epi16")
  | .pcmpeqd | .vpcmpeqd => some (.vector "_mm_cmpeq_epi32")
  | .pcmpeqq | .vpcmpeqq => some (.vector "_mm_cmpeq_epi64")
  | .pcmpgtb | .vpcmpgtb => some (.vector "_mm_cmpgt_epi8")
  | .pcmpgtw | .vpcmpgtw => some (.vector "_mm_cmpgt_epi16")
  | .pcmpgtd | .vpcmpgtd => some (.vector "_mm_cmpgt_epi32")
  | .pcmpgtq | .vpcmpgtq => some (.vector "_mm_cmpgt_epi64")
  -- Vector operations: packs.
  | .packuswb | .vpackuswb => some (.vector "_mm_packus_epu16_to_epi8")
  | .packusdw | .vpackusdw => some (.vector "_mm_packus_epu32_to_epi16")
  | .packsswb | .vpacksswb => some (.vector "_mm_packs_epu16_to_epi8")
  | .packssdw | .vpackssdw => some (.vector "_mm_packs_epu32_to_epi16")
  -- Vector operations: integer arithmetic.
  | .paddb | .vpaddb => some (.vector "_mm_add_epi8")
  | .paddw | .vpaddw => some (.vector "_mm_add_epi16")
  | .paddd | .vpaddd => some (.vector "_mm_add_epi32")
  | .paddq | .vpaddq => some (.vector "_mm_add_epi64")
  | .paddsb | .vpaddsb => some (.vector "_mm_adds_epi8")
  | .paddsw | .vpaddsw => some (.vector "_mm_adds_epi16")
  | .pmaddwd | .vpmaddwd => some (.vector "_mm_pmadd_epi16")
  | .pmulhw | .vpmulhw => some (.vector "_mm_mulhi_epi16")
  | .pmullw | .vpmullw => some (.vector "_mm_mullo_epi16")
  | .pabsb | .vpabsb => some (.vector "_mm_abs_epi8")
  | .pabsw | .vpabsw => some (.vector "_mm_abs_epi16")
  | .pabsd | .vpabsd => some (.vector "_mm_abs_epi32")
  | .palignr | .vpalignr => some (.vector "_mm_alignr_epi8")
  | .pavgb | .vpavgb => some (.vector "_mm_avg_epu8")
  | .pavgw | .vpavgw => some (.vector "_mm_avg_epu16")
  | .emms => some (.vector "_mm_empty")
  -- Vector operations: floating point.
  | .addsubps | .vaddsubps => some (.vector "_mm_addsub_ps")
  | .addsubpd | .vaddsubpd => some (.vector "_mm_addsub_pd")
  -- Vector operations: blends.
  | .pblendw | .vpblendw => some (.vector "_mm_blend_epi16")
  | .vpblendd => some (.vector "_mm_blend_epi32")
  | .blendps | .vblendps => some (.vector "_mm_blend_ps")
  | .blendpd | .vblendpd => some (.vector "_mm_blend_pd")
  | .pblendvb | .vpblendvb => some (.vector "_mm_blendv_epi8")
  | .blendvps | .vblendvps => some (.vector "_mm_blendv_ps")
  | .blendvpd | .vblendvpd => some (.vector "_mm_blendv_pd")
  -- Vector operations: broadcasts.
  | .vbroadcastf128 => some (.vector "_mm_broadcast_f128")
  | .vbroadcastf32x2 => some (.vector "_mm_broadcast_f32x2")
  | .vbroadcastf32x4 => some (.vector "_mm_broadcast_f32x4")
  | .vbroadcastf32x8 => some (.vector "_mm_broadcast_f32x8")
  | .vbroadcastf64x2 => some (.vector "_mm_broadcast_f64x2")
  | .vbroadcastf64x4 => some (.vector "_mm_broadcast_f64x4")
  | .vbroadcasti128 => some (.vector "_mm_broadcastsi128_si256")
  | .vbroadcasti32x2 => some (.vector "_mm_broadcast_i32x2")
  | .vbroadcasti32x4 => some (.vector "_mm_broadcast_i32x4")
  | .vbroadcasti32x8 => some (.vector "_mm_broadcast_i32x8")
  | .vbroadcasti64x2 => some (.vector "_mm_broadcast_i64x2")
  | .vbroadcasti64x4 => some (.vector "_mm_broadcast_i64x4")
  | .vbroadcastsd => some (.vector "_mm_broadcast_sd")
  | .vbroadcastss => some (.vector "_mm_broadcast_ss")
  | .vpbroadcastb => some (.vector "_mm_broadcast_epi8")
  | .vpbroadcastw => some (.vector "_mm_broadcast_epi16")
  | .vpbroadcastd => some (.vector "_mm_broadcast_epi32")
  | .vpbroadcastq => some (.vector "_mm_broadcast_epi64")
  | .vpbroadcastmb2q => some (.vector "_mm_broadcastmb_epi64")
  | .vpbroadcastmw2d => some (.vector "_mm_broadcastmw_epi32")
  -- No statement.
  | _ => none

/-- A property of rules is checked for the standard ones by going through the mnemonics. -/
theorem of_standardRule? {mnemonic : Mnemonic} {rule : Rule} {p : Rule → Prop} [DecidablePred p]
    (hall : Mnemonic.all.all (fun mnemonic =>
      (standardRule? mnemonic).all fun rule => decide (p rule)) = true)
    (h : standardRule? mnemonic = some rule) : p rule := by
  have hrule := List.all_eq_true.mp hall mnemonic mnemonic.mem_all
  rw [h] at hrule
  exact of_decide_eq_true hrule

/-- The table of the standard rules. -/
def RuleTable.standard : RuleTable := fun mnemonic => (standardRule? mnemonic).map some

/-- The standard table gives what `standardRule?` gives. -/
theorem RuleTable.rule?_standard (mnemonic : Mnemonic) :
    standard.rule? mnemonic = standardRule? mnemonic := by
  simp only [rule?, standard]
  cases standardRule? mnemonic <;> rfl

end X86Gloss
