/-
X86Gloss/Proofs/Gloss/Line.lean

Successful translations by the standard rules are well-formed lines. The words of the standard rules
keep to a line, so `Rule.isLine_statement` applies to whatever they make of a site. A line has
no zero byte in it; so the buffer holds it up to the first one, and a reader finds nothing else.

`RuleTable.gloss_isLine` is the theorem, for every request and every buffer.
-/
import X86Gloss.Proofs.Gloss.Ending
import X86Gloss.Proofs.Rule.Standard
import X86Gloss.Proofs.Statement.Line

namespace X86Gloss

/-! ### What a reader of the buffer finds -/

/-- What stands in a buffer before its first zero byte, when there is one. -/
def closedText? (buffer : List UInt8) : Option String :=
  if 0 ∈ buffer then asciiText? (buffer.takeWhile (· ≠ 0)) else none

/-- A printable text that was laid over the beginning of a buffer is found there. -/
theorem closedText?_stamp {text : String} (h : ∀ c ∈ text.toList, 0x20 ≤ c.toNat ∧ c.toNat ≤ 0x7e)
    (buffer : List UInt8) : closedText? (stamp text buffer) = some text := by
  have hascii : IsAscii text := by
    intro c hc
    have hbounds := h c hc
    omega
  -- No byte of the text is zero, so the first zero is the one behind it.
  have hnonzero : ∀ byte ∈ bytesOf text, byte ≠ 0 := by
    intro byte hbyte hzero
    obtain ⟨c, hc, rfl⟩ := List.mem_map.mp hbyte
    have hbounds := h c hc
    have hnat := congrArg UInt8.toNat hzero
    rw [toNat_byte (hascii c hc), UInt8.toNat_zero] at hnat
    omega
  have hread : (stamp text buffer).takeWhile (· ≠ 0) = bytesOf text := by
    rw [stamp, List.takeWhile_append_of_pos (by simpa using hnonzero)]
    simp
  have hclosed : 0 ∈ stamp text buffer := by simp [stamp]
  rw [closedText?, if_pos hclosed, hread, asciiText?_bytesOf hascii]

namespace RuleTable

/-! ### Lines -/

/-- The words of the standard rules keep to a line. -/
theorem hasTidyWords_of_standardRule? {mnemonic : Mnemonic} {rule : Rule}
    (h : standardRule? mnemonic = some rule) : rule.HasTidyWords :=
  of_standardRule? (by decide +kernel) h

/-- **Every success is one well-formed line.**  By the standard rules, a call that ends in success
makes a line of the rule of its instruction, whatever the operands, the visible ones among them and
the address are; and the buffer up to its first zero byte is that line. -/
theorem gloss_isLine {request : Request} {buffer : Option (List UInt8)} {reply : Reply}
    (hgloss : standard.gloss request buffer = .ok reply)
    (hsuccess : reply.result.outcome = .success) :
    ∃ instruction rule after, request.instruction = some instruction
      ∧ standard.rule? instruction.mnemonic = some rule
      ∧ IsLine rule reply.result.text
      ∧ reply.buffer = some after ∧ closedText? after = some reply.result.text := by
  cases ends_of_gloss hasAsciiTexts_standard hgloss with
  | refused | ruleless | cut | faulty => cases hsuccess
  | whole hvalid hrule hfits hnone =>
    have hstandard := hrule
    rw [rule?_standard] at hstandard
    have hline := Rule.isLine_statement (hasTidyWords_of_standardRule? hstandard)
      (essential_of_standardRule? hstandard) hnone
    exact ⟨_, _, _, hvalid.instruction, hrule, hline, rfl, closedText?_stamp hline.printable _⟩

/-- A branch with a note on a scaled index: two parentheses deep, a semicolon, then the note. -/
theorem gloss_isLine_jz :
    IsLine (.notedBranch "zero_flag" "if zero / equal")
        "if (zero_flag) goto *(: (i64)a + ((i64)b * 8)); // if zero / equal"
      ∧ closedText? (stamp "if (zero_flag) goto *(: (i64)a + ((i64)b * 8)); // if zero / equal"
          (List.replicate 80 0xff))
        = some "if (zero_flag) goto *(: (i64)a + ((i64)b * 8)); // if zero / equal" := by
  have hgloss : standard.gloss
      ⟨some ⟨.jz, 1, none, 0⟩, some [.ofMemory ⟨.direct, 0, 53, 56, 8, none⟩], 0, none⟩
      (some (List.replicate 80 0xff)) = .ok
        { result :=
            ⟨.success, "if (zero_flag) goto *(: (i64)a + ((i64)b * 8)); // if zero / equal",
              some true⟩
          buffer := some (stamp
            "if (zero_flag) goto *(: (i64)a + ((i64)b * 8)); // if zero / equal"
            (List.replicate 80 0xff))
          rows := [] } := by decide +kernel
  obtain ⟨instruction, rule, after, hinstruction, hrule, hline, hbuffer, hread⟩ :=
    gloss_isLine hgloss rfl
  cases hinstruction
  cases hrule
  cases hbuffer
  exact ⟨hline, hread⟩

end RuleTable

end X86Gloss
