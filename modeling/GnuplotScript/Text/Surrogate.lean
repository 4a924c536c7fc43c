/-!
# Surrogates

A document can name one half of a surrogate pair without the other. Such a half is no character,
and no encoding has it, but texts that are read may hold it. A character stands for it then; which
one is left open, so that it can always be one that does not occur otherwise.

## Main definitions

* `Text.isSurrogate` — the codes of halves
* `Text.Halves` — the characters that stand for halves
* `Text.StandIns` — a character for each half
* `Text.StandIns.privateUse` — characters of the last plane that nobody has assigned
-/

namespace GnuplotScript.Text

/-- Whether a code is that of one half of a pair. -/
def isSurrogate (code : Nat) : Bool :=
  0xd800 ≤ code && code < 0xe000

/-- The characters that stand for halves of pairs. Those of ASCII never do, as they have a meaning
of their own. -/
class Halves where
  half? : Char → Option Nat
  isSurrogate_of_half? : ∀ {c code}, half? c = some code → isSurrogate code = true
  not_ascii_of_half? : ∀ {c code}, half? c = some code → ¬c.toNat < 0x80

export Halves (half?)

/-- Unless others are chosen, all characters stand for themselves. -/
instance (priority := low) Halves.none : Halves where
  half? _ := Option.none
  isSurrogate_of_half? := nofun
  not_ascii_of_half? := nofun

/-- A character for each half. -/
class StandIns extends Halves where
  standIn : Nat → Char
  half?_standIn : ∀ {code}, isSurrogate code = true → half? (standIn code) = some code

export StandIns (standIn)

/-- How far the characters for private use are from the halves that they stand for. -/
def privateOffset : Nat := 0x100000

/-- Characters of the last plane, which is for private use. -/
@[reducible]
def StandIns.privateUse : StandIns where
  half? c :=
    if privateOffset ≤ c.toNat ∧ isSurrogate (c.toNat - privateOffset) = true then
      some (c.toNat - privateOffset)
    else none
  standIn code := Char.ofNat (privateOffset + code)
  isSurrogate_of_half? := by
    intro c code h
    obtain ⟨⟨-, half⟩, same⟩ := Option.ite_none_right_eq_some.1 h
    exact Option.some.inj same ▸ half
  not_ascii_of_half? := by
    intro c code h ascii
    obtain ⟨⟨far, -⟩, -⟩ := Option.ite_none_right_eq_some.1 h
    have near : c.toNat < privateOffset := Nat.lt_of_lt_of_le ascii (by decide)
    exact Nat.not_le.2 near far
  half?_standIn := by
    intro code h
    have bounds : 0xd800 ≤ code ∧ code < 0xe000 := by simpa [isSurrogate] using h
    have valid : (privateOffset + code).isValidChar := by
      unfold privateOffset Nat.isValidChar
      omega
    have number : (Char.ofNat (privateOffset + code)).toNat = privateOffset + code := by
      rw [Char.ofNat, dif_pos valid]
      rfl
    rw [number, Nat.add_sub_cancel_left, if_pos ⟨Nat.le_add_right _ _, h⟩]

end GnuplotScript.Text
