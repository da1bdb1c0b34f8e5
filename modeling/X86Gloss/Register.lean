/-
X86Gloss/Register.lean

The register file. Every register has an identifier, its place in the decoder's numbering,
an assembler name, and a text that stands for it in a statement. General purpose registers
share one text for all widths, with a cast in front that tells the width; the 32-bit forms of
the first four are spelled `ax`, `cx`, `dx` and `bx`.

Operands name registers by arbitrary integers; only those inside the table have a text.
-/
import X86Gloss.Text.Case

namespace X86Gloss

/-- The assembler name of a register and the text that stands for it. -/
structure Register where
  name : String
  text : String
deriving DecidableEq

namespace Register

/-! ### The table -/

/-- Registers `0` to `count - 1` of a family, family at the end of name and text. -/
def family (name text : String) (count : Nat) : List Register :=
  (List.range count).map fun n => ⟨name ++ n.repr, text ++ n.repr⟩

/-- The eight registers that came with the 64-bit mode, in one width. -/
def highEight (cast suffix : String) : List Register :=
  (List.range' 8 8).map fun n => ⟨"R" ++ n.repr ++ suffix, cast ++ "r" ++ n.repr⟩

/-- General purpose registers of 8 bits. -/
def general8 : List Register := [
  ⟨"AL", "(i8)a"⟩, ⟨"CL", "(i8)c"⟩, ⟨"DL", "(i8)d"⟩, ⟨"BL", "(i8)b"⟩,
  ⟨"AH", "(i8)(a >> 8)"⟩, ⟨"CH", "(i8)(c >> 8)"⟩, ⟨"DH", "(i8)(d >> 8)"⟩, ⟨"BH", "(i8)(b >> 8)"⟩,
  ⟨"SPL", "(i8)stack_pointer"⟩, ⟨"BPL", "(i8)bp"⟩, ⟨"SIL", "(i8)si"⟩, ⟨"DIL", "(i8)di"⟩]
    ++ highEight "(i8)" "B"

/-- General purpose registers of 16 bits. -/
def general16 : List Register := [
  ⟨"AX", "(i16)a"⟩, ⟨"CX", "(i16)c"⟩, ⟨"DX", "(i16)d"⟩, ⟨"BX", "(i16)b"⟩,
  ⟨"SP", "(i16)stack_pointer"⟩, ⟨"BP", "(i16)bp"⟩, ⟨"SI", "(i16)si"⟩, ⟨"DI", "(i16)di"⟩]
    ++ highEight "(i16)" "W"

/-- General purpose registers of 32 bits. -/
def general32 : List Register := [
  ⟨"EAX", "(i32)ax"⟩, ⟨"ECX", "(i32)cx"⟩, ⟨"EDX", "(i32)dx"⟩, ⟨"EBX", "(i32)bx"⟩,
  ⟨"ESP", "(i32)stack_pointer"⟩, ⟨"EBP", "(i32)bp"⟩, ⟨"ESI", "(i32)si"⟩, ⟨"EDI", "(i32)di"⟩]
    ++ highEight "(i32)" "D"

/-- General purpose registers of 64 bits. -/
def general64 : List Register := [
  ⟨"RAX", "(i64)a"⟩, ⟨"RCX", "(i64)c"⟩, ⟨"RDX", "(i64)d"⟩, ⟨"RBX", "(i64)b"⟩,
  ⟨"RSP", "(i64)stack_pointer"⟩, ⟨"RBP", "(i64)bp"⟩, ⟨"RSI", "(i64)si"⟩, ⟨"RDI", "(i64)di"⟩]
    ++ highEight "(i64)" ""

/-- The floating point stack and the registers that govern it. -/
def floatingPoint : List Register :=
  family "ST" "(float)s" 8
    ++ [⟨"X87CONTROL", "x87control"⟩, ⟨"X87STATUS", "x87status"⟩, ⟨"X87TAG", "x87tag"⟩]

/-- Multimedia, vector and tile registers. -/
def vectors : List Register :=
  family "MM" "(float)mm" 8
    ++ family "XMM" "(m128)x" 32
    ++ family "YMM" "(m256)y" 32
    ++ family "ZMM" "(m512)z" 32
    ++ family "TMM" "(matrix_tile)t" 8

/-- Flags and instruction pointers. -/
def flow : List Register := [
  ⟨"FLAGS", "flags"⟩, ⟨"EFLAGS", "eflags"⟩, ⟨"RFLAGS", "rflags"⟩, ⟨"IP", "instruction_pointer"⟩,
  ⟨"EIP", "instruction_pointer32"⟩, ⟨"RIP", "instruction_pointer64"⟩]

/-- Segment registers. -/
def segments : List Register := [
  ⟨"ES", "extra_segment"⟩, ⟨"CS", "code_segment"⟩, ⟨"SS", "stack_segment"⟩,
  ⟨"DS", "data_segment"⟩, ⟨"FS", "f_segment"⟩, ⟨"GS", "g_segment"⟩]

/-- Registers of the system: descriptor tables, test, control and debug registers. -/
def system : List Register := [
  ⟨"GDTR", "table_gdtr"⟩, ⟨"LDTR", "table_ldtr"⟩, ⟨"IDTR", "table_idtr"⟩, ⟨"TR", "table_tr"⟩]
    ++ family "TR" "test_tr" 8
    ++ family "CR" "control_cr" 16
    ++ family "DR" "debug_dr" 16

/-- Mask and bound registers, and the few that belong to no family. -/
def others : List Register :=
  family "K" "mask_k" 8
    ++ family "BND" "bound_bnd" 4
    ++ [⟨"BNDCFG", "bound_bndcfg"⟩, ⟨"BNDSTATUS", "bound_bndstatus"⟩, ⟨"MXCSR", "mxcsr"⟩,
      ⟨"PKRU", "pkru"⟩, ⟨"XCR0", "xcr0"⟩, ⟨"UIF", "uif"⟩]

/-- No register: identifier 0, with an empty text. -/
def absent : Register := ⟨"NONE", ""⟩

/-- All registers, each at the place that is its identifier. -/
def table : List Register :=
  [absent] ++ general8 ++ general16 ++ general32 ++ general64 ++ floatingPoint ++ vectors ++ flow
    ++ segments ++ system ++ others

/-! ### Looking up -/

/-- The register with an identifier; integers outside the table name none. -/
def ofId? (id : Int) : Option Register :=
  if 0 ≤ id then table[id.toNat]? else none

/-- The identifier of an assembler name in upper case. -/
def idOfName? (name : String) : Option Nat := table.findIdx? (·.name = name)

/-- The identifier of an assembler name in any case. -/
def idOfAnyCase? (name : String) : Option Nat := idOfName? (upperCase name)

/-- The identifier that means that there is no register. -/
def absentId : Int := 0

end Register

end X86Gloss
