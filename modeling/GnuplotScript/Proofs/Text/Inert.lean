import GnuplotScript.Decimal.Layout
import GnuplotScript.Proofs.Text.Quoted
import GnuplotScript.Text.Inspect
import GnuplotScript.Text.Lines

/-!
# Inert texts

The boundaries of statements in a script are drawn by line feeds and by the header of data
blocks, which ends in the letter `D`. A text without a line feed that does not end in this
letter draws none, wherever it stands in a line; so do all texts put together from such.

## Main definitions

* `Text.Inert` — such texts, `Text.InertChars` — their characters
* `Text.Bland` — characters that do no harm anywhere

## Main results

* `Inert.append`, `Inert.join` — inert texts put together
* `inert_quote`, `inert_inspect`, `inert_inspectOctets` — texts in quotation marks are inert
* `inert_integer`, `inert_binary64` — numerals are inert
-/

namespace GnuplotScript.Text

variable {s t separator : String} {cs ds : List Char} {c mark : Char} {texts : List String}

/-- Characters without a line feed that do not end like the header of a data block. -/
def InertChars (cs : List Char) : Prop :=
  '\n' ∉ cs ∧ cs.getLast? ≠ some 'D'

instance (cs : List Char) : Decidable (InertChars cs) :=
  inferInstanceAs (Decidable (_ ∧ _))

theorem InertChars.append (hcs : InertChars cs) (hds : InertChars ds) : InertChars (cs ++ ds) := by
  constructor
  · rw [List.mem_append, not_or]
    exact ⟨hcs.1, hds.1⟩
  · rw [List.getLast?_append]
    cases hlast : ds.getLast? with
    | none => exact hcs.2
    | some last =>
      rw [Option.some_or, ← hlast]
      exact hds.2

/-- A text of such characters. -/
def Inert (s : String) : Prop :=
  InertChars s.toList

instance (s : String) : Decidable (Inert s) :=
  inferInstanceAs (Decidable (InertChars _))

theorem inert_space : Inert " " := by
  decide

theorem inert_empty : Inert "" := by
  decide

theorem Inert.append (hs : Inert s) (ht : Inert t) : Inert (s ++ t) := by
  rw [Inert, String.toList_append]
  exact InertChars.append hs ht

theorem Inert.join (hseparator : Inert separator) (h : ∀ s ∈ texts, Inert s) :
    Inert (join separator texts) := by
  induction texts with
  | nil => exact inert_empty
  | cons s rest ih =>
    obtain ⟨hs, hrest⟩ := List.forall_mem_cons.1 h
    by_cases last : rest = []
    · rw [last]
      exact hs
    · rw [join_cons separator s last]
      exact (hs.append hseparator).append (ih hrest)

/-- A text that ends with a mark is inert if nothing breaks the line. -/
theorem inert_ofList_concat (h : '\n' ∉ cs) (hline : mark ≠ '\n') (hend : mark ≠ 'D') :
    Inert (String.ofList (cs ++ [mark])) := by
  rw [Inert, InertChars, String.toList_ofList, List.getLast?_concat]
  constructor
  · rw [List.mem_append, not_or, List.mem_singleton]
    exact ⟨h, hline.symm⟩
  · exact fun last => hend (Option.some.inj last)

/-! ### Texts in quotation marks -/

/-- A quoted literal is inert, whatever text it is of. -/
theorem inert_quote (s : String) : Inert (quote s) := by
  have inside : '\n' ∉ '"' :: s.toList.flatMap Quoted.encodeChar := by
    rw [List.mem_cons, not_or, List.mem_flatMap]
    refine ⟨by decide, ?_⟩
    intro ⟨c, _, hc⟩
    exact Quoted.notMem_encodeChar (by decide) c hc
  rw [quote, Quoted.encode, Quoted.encodeTail, ← List.cons_append]
  exact inert_ofList_concat inside (by decide) (by decide)

theorem newline_notMem_hexPadded (width n : Nat) : '\n' ∉ hexPadded width n := by
  induction width generalizing n with
  | zero => exact List.not_mem_nil
  | succ width ih =>
    have digit : ∀ k < 16, '\n' ≠ hexDigit k := by decide
    rw [hexPadded, List.mem_append, not_or, List.mem_singleton]
    exact ⟨ih (n / 16), digit (n % 16) (Nat.mod_lt n (by decide))⟩

theorem newline_notMem_escapeCode (code : Nat) : '\n' ∉ escapeCode code := by
  unfold escapeCode
  split
  · simp [newline_notMem_hexPadded]
  · split
    · simp [newline_notMem_hexPadded]
    · simp [newline_notMem_hexPadded]

theorem quotationMark_cases (cs : List Char) :
    quotationMark cs = '"' ∨ quotationMark cs = '\'' := by
  unfold quotationMark
  split
  · exact .inl rfl
  · exact .inr rfl

theorem quotationMark_ne (cs : List Char) : quotationMark cs ≠ '\n' ∧ quotationMark cs ≠ 'D' := by
  rcases quotationMark_cases cs with h | h
  · rw [h]
    decide
  · rw [h]
    decide

section Halves

variable [Halves]

theorem newline_notMem_inspectChar (hmark : mark ≠ '\n') (c : Char) :
    '\n' ∉ inspectChar mark c := by
  by_cases line : c = '\n'
  · have escaped : inspectChar mark '\n' = ['\\', 'n'] := by simp [inspectChar, Ne.symm hmark]
    rw [line, escaped]
    decide
  · have other : '\n' ≠ c := Ne.symm line
    rw [inspectChar, if_neg line]
    split
    · simp [other]
    · split
      · decide
      · split
        · decide
        · split
          · simp [other]
          · exact newline_notMem_escapeCode _

/-- A text as messages show it is inert. -/
theorem inert_inspect (s : String) : Inert (inspect s) := by
  obtain ⟨hline, hend⟩ := quotationMark_ne s.toList
  rw [inspect, inspectChars]
  apply inert_ofList_concat _ hline hend
  rw [List.mem_cons, not_or, List.mem_flatMap]
  refine ⟨hline.symm, ?_⟩
  intro ⟨c, _, hc⟩
  exact newline_notMem_inspectChar hline c hc

end Halves

/-- Octets as messages show them are inert. -/
theorem inert_inspectOctets (octets : List UInt8) : Inert (inspectOctets octets) := by
  obtain ⟨hline, hend⟩ := quotationMark_ne (octets.map fun octet => Char.ofNat octet.toNat)
  rw [inspectOctets]
  apply inert_ofList_concat _ hline hend
  rw [List.mem_cons, not_or, List.mem_cons, not_or, List.mem_flatMap]
  refine ⟨by decide, hline.symm, ?_⟩
  intro ⟨c, _, hc⟩
  split at hc
  · exact newline_notMem_inspectChar hline c hc
  · exact newline_notMem_escapeCode c.toNat hc

/-! ### Numerals -/

/-- A character that neither breaks a line nor ends the header of a data block. -/
def Bland (c : Char) : Prop :=
  c ≠ '\n' ∧ c ≠ 'D'

instance (c : Char) : Decidable (Bland c) :=
  inferInstanceAs (Decidable (_ ∧ _))

theorem inert_of_bland (h : ∀ c ∈ cs, Bland c) : Inert (String.ofList cs) := by
  rw [Inert, String.toList_ofList]
  exact ⟨fun hmem => (h _ hmem).1 rfl, fun last => (h _ (List.mem_of_getLast? last)).2 rfl⟩

theorem bland_of_all (h : cs.all (fun c => decide (Bland c)) = true) : ∀ c ∈ cs, Bland c :=
  fun c hc => of_decide_eq_true (List.all_eq_true.1 h c hc)

theorem bland_sign (negative : Prop) [Decidable negative] :
    ∀ c ∈ (if negative then ['-'] else []), Bland c := by
  split
  · exact bland_of_all (by decide)
  · exact nofun

theorem bland_of_isDigit (h : c.isDigit = true) : Bland c := by
  constructor
  · rintro rfl
    revert h
    decide
  · rintro rfl
    revert h
    decide

theorem bland_natural (n : Nat) : ∀ c ∈ Decimal.natural n, Bland c :=
  fun _ hc => bland_of_isDigit (Nat.isDigit_of_mem_toDigits (by decide) (by decide) hc)

theorem bland_zeros (count : Nat) : ∀ c ∈ List.replicate count '0', Bland c := by
  intro c hc
  rw [List.eq_of_mem_replicate hc]
  decide

theorem bland_padded (width n : Nat) : ∀ c ∈ Decimal.padded width n, Bland c :=
  List.forall_mem_append.2 ⟨bland_zeros _, bland_natural n⟩

theorem bland_positional (h : ∀ c ∈ cs, Bland c) (whole : Int) :
    ∀ c ∈ Decimal.positional cs whole, Bland c := by
  have point : Bland '.' := by decide
  unfold Decimal.positional
  split
  · have zero : Bland '0' := by decide
    rw [List.forall_mem_append, List.forall_mem_cons, List.forall_mem_cons]
    exact ⟨⟨zero, point, bland_zeros _⟩, h⟩
  · dsimp only
    rw [List.forall_mem_append, List.forall_mem_append, List.forall_mem_cons]
    refine ⟨⟨fun c hc => h c (List.mem_of_mem_take hc), bland_zeros _⟩, point, ?_⟩
    split
    · exact bland_of_all (by decide)
    · exact fun c hc => h c (List.mem_of_mem_drop hc)

theorem bland_scientific (h : ∀ c ∈ cs, Bland c) (exponent : Int) :
    ∀ c ∈ Decimal.scientific Decimal.layout cs exponent, Bland c := by
  have sign : Bland (if exponent < 0 then '-' else '+') := by
    split <;> decide
  have exponentMark : Bland Decimal.layout.exponentMark := by decide
  have point : Bland '.' := by decide
  unfold Decimal.scientific
  rw [List.forall_mem_append, List.forall_mem_cons, List.forall_mem_cons]
  refine ⟨?_, exponentMark, sign, bland_padded _ _⟩
  split
  · rw [List.forall_mem_cons] at h ⊢
    exact ⟨h.1, List.forall_mem_cons.2 ⟨point, h.2⟩⟩
  · exact h

theorem bland_binary64In (x : Binary64) : ∀ c ∈ Decimal.binary64In Decimal.layout x, Bland c := by
  unfold Decimal.binary64In
  dsimp only
  split
  · exact bland_of_all (by decide)
  · split
    · exact List.forall_mem_append.2 ⟨bland_sign _, bland_of_all (by decide)⟩
    · split
      · exact List.forall_mem_append.2 ⟨bland_sign _, bland_of_all (by decide)⟩
      · refine List.forall_mem_append.2 ⟨bland_sign _, ?_⟩
        unfold Decimal.magnitude
        dsimp only
        split
        · exact bland_positional (bland_natural _) _
        · exact bland_scientific (bland_natural _) _

theorem inert_integer (n : Int) : Inert (Decimal.integer n) :=
  inert_of_bland (List.forall_mem_append.2 ⟨bland_sign _, bland_natural _⟩)

theorem inert_binary64 (x : Binary64) : Inert (Decimal.binary64 x) :=
  inert_of_bland (bland_binary64In x)

end GnuplotScript.Text
