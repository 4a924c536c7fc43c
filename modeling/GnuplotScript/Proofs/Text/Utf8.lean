import GnuplotScript.Proofs.Traversal

/-!
# Octets of texts

Octets are read as a text exactly if they are its encoding. The reader goes octet by octet and
knows of a character begun only its first bits and how many octets are owed; that is enough,
since the octets still to come are settled by the code point, six bits each. The bounds of the
second octet rule out the code points that no text has or that are encoded in fewer octets.

## Main definitions

* `Utf8.lead`, `Utf8.tails`, `Utf8.extent` — the octets of a code point, and how many there are
* `Pending.Holds` — code points that go on from a character begun
* `Utf8.Follows` — the octets that lead from a state of the reader to given characters
* `Utf8.IsEncodable` — texts that have an encoding

## Main results

* `decode_eq_ok_iff` — the characters that are read are those whose encoding was given
* `isEncodable_iff` — a text that has no encoding is found out
-/

namespace GnuplotScript.Text.Utf8

variable {c : Char} {octet : UInt8} {octets rest tail : List UInt8} {cs others : List Char}
  {n position : Nat} {begun : Pending} {pending : Option Pending}

/-! ### The octets of a code point -/

/-- How many octets follow the first one of a code point. -/
def extent (n : Nat) : Nat :=
  if n ≤ 0x7f then 0 else if n ≤ 0x7ff then 1 else if n ≤ 0xffff then 2 else 3

/-- The first octet of a code point. -/
def lead (n : Nat) : Nat :=
  if n ≤ 0x7f then n
  else if n ≤ 0x7ff then n / 64 + 0xc0
  else if n ≤ 0xffff then n / 4096 + 0xe0
  else n / 262144 + 0xf0

/-- A code point without the bits of its last octets, six for each. -/
def leadingBits : Nat → Nat → Nat
  | 0, n => n
  | count + 1, n => leadingBits count n / 64

/-- The last octets of a code point, six bits in each. -/
def tails : Nat → Nat → List Nat
  | 0, _ => []
  | count + 1, n => (leadingBits count n % 64 + 0x80) :: tails count n

theorem map_toNat_utf8EncodeChar (c : Char) :
    (String.utf8EncodeChar c).map UInt8.toNat =
      lead c.toNat :: tails (extent c.toNat) c.toNat := by
  have valid : c.toNat < 0xd800 ∨ 0xdfff < c.toNat ∧ c.toNat < 0x110000 := c.valid
  have code : c.val.toNat = c.toNat := rfl
  unfold String.utf8EncodeChar lead extent
  rw [code]
  dsimp only
  split_ifs <;> simp [tails, leadingBits, UInt8.toNat_ofNat'] <;> omega

theorem map_toNat_inj {xs ys : List UInt8} : xs.map UInt8.toNat = ys.map UInt8.toNat ↔ xs = ys :=
  List.map_inj_right fun _ _ => UInt8.toNat_inj.1

theorem utf8EncodeChar_eq_cons_iff :
    String.utf8EncodeChar c = octet :: tail ↔
      lead c.toNat = octet.toNat ∧ tails (extent c.toNat) c.toNat = tail.map UInt8.toNat := by
  rw [← map_toNat_inj, map_toNat_utf8EncodeChar, List.map_cons, List.cons.injEq]

/-- A text begins with the octets of its first character. -/
theorem flatMap_eq_cons_iff :
    octet :: octets = cs.flatMap String.utf8EncodeChar ↔
      ∃ c others tail, cs = c :: others ∧ String.utf8EncodeChar c = octet :: tail ∧
        octets = tail ++ others.flatMap String.utf8EncodeChar := by
  cases cs with
  | nil => simp
  | cons c others =>
    rw [List.flatMap_cons]
    cases hc : String.utf8EncodeChar c with
    | nil => exact absurd hc String.utf8EncodeChar_ne_nil
    | cons first tail =>
      rw [List.cons_append, List.cons.injEq]
      constructor
      · rintro ⟨rfl, rfl⟩
        exact ⟨c, others, tail, rfl, hc, rfl⟩
      · rintro ⟨d, more, behind, hcs, hd, rfl⟩
        obtain ⟨rfl, rfl⟩ := List.cons.inj hcs
        obtain ⟨rfl, rfl⟩ := List.cons.inj (hc.symm.trans hd)
        exact ⟨rfl, rfl⟩

/-! ### Characters begun -/

/-- A code point goes on from a character begun: it has the bits that were read, and its next
octet lies within the bounds. -/
def Pending.Holds (begun : Pending) (n : Nat) : Prop :=
  begun.bits = leadingBits begun.owed n ∧
    begun.low ≤ leadingBits (begun.owed - 1) n % 64 + 0x80 ∧
    leadingBits (begun.owed - 1) n % 64 + 0x80 ≤ begun.high

/-- What is known of a character begun: another octet is owed, it must be one of continuation,
and no code point that goes on is one that texts do not have. -/
structure Pending.Sound (begun : Pending) : Prop where
  owed_pos : 0 < begun.owed
  le_low : 0x80 ≤ begun.low
  high_le : begun.high ≤ 0xbf
  valid : ∀ n, begun.Holds n → n.isValidChar

/-- A character begun with an octet: how many octets are owed, the bits in it, and the bounds of
the next one, which are narrower after the first octets of some ranges. -/
def Pending.BegunWith (begun : Pending) (first : Nat) : Prop :=
  (begun.owed = 1 ∧ 0xc2 ≤ first ∧ first < 0xe0 ∧ begun.bits = first - 0xc0 ∧
      begun.low = 0x80 ∧ begun.high = 0xbf) ∨
    (begun.owed = 2 ∧ 0xe0 ≤ first ∧ first < 0xf0 ∧ begun.bits = first - 0xe0 ∧
      (first = 0xe0 ∧ begun.low = 0xa0 ∨ first ≠ 0xe0 ∧ begun.low = 0x80) ∧
      (first = 0xed ∧ begun.high = 0x9f ∨ first ≠ 0xed ∧ begun.high = 0xbf)) ∨
    (begun.owed = 3 ∧ 0xf0 ≤ first ∧ first < 0xf5 ∧ begun.bits = first - 0xf0 ∧
      (first = 0xf0 ∧ begun.low = 0x90 ∨ first ≠ 0xf0 ∧ begun.low = 0x80) ∧
      (first = 0xf4 ∧ begun.high = 0x8f ∨ first ≠ 0xf4 ∧ begun.high = 0xbf))

/-- Every octet but those of continuation, of overlong forms and past the last code point begins
a character. -/
theorem begin?_spec (position : Nat) (octet : UInt8) :
    match begin? position octet with
    | none => octet.toNat < 0xc2 ∨ 0xf5 ≤ octet.toNat
    | some begun => begun.BegunWith octet.toNat := by
  unfold begin? Pending.BegunWith
  dsimp only
  split_ifs <;> dsimp only <;> omega

theorem begunWith_of_begin? (h : begin? position octet = some begun) :
    begun.BegunWith octet.toNat := by
  have spec := begin?_spec position octet
  rw [h] at spec
  exact spec

/-- An octet that begins no character is the first of no code point. -/
theorem lead_ne_of_begin? (h : begin? position octet = none) (hhigh : 0x80 ≤ octet.toNat)
    (c : Char) : lead c.toNat ≠ octet.toNat := by
  have valid : c.toNat < 0xd800 ∨ 0xdfff < c.toNat ∧ c.toNat < 0x110000 := c.valid
  have spec := begin?_spec position octet
  rw [h] at spec
  dsimp only at spec
  unfold lead
  split_ifs <;> omega

/-- From a first octet go on the code points that have it. -/
theorem Pending.BegunWith.holds_iff {first : Nat} (h : begun.BegunWith first) :
    begun.Holds n ↔ n.isValidChar ∧ lead n = first := by
  unfold Pending.Holds lead Nat.isValidChar
  obtain ⟨howed, bounds⟩ | ⟨howed, bounds⟩ | ⟨howed, bounds⟩ := h <;>
    simp only [howed, leadingBits, Nat.reduceSub] <;> split_ifs <;> omega

/-- The first octet settles how many follow. -/
theorem Pending.BegunWith.extent_eq {first : Nat} (h : begun.BegunWith first)
    (hlead : lead n = first) : extent n = begun.owed := by
  unfold Pending.BegunWith at h
  unfold lead at hlead
  unfold extent
  split_ifs at hlead ⊢ <;> omega

theorem Pending.BegunWith.sound {first : Nat} (h : begun.BegunWith first) : begun.Sound where
  owed_pos := by
    unfold Pending.BegunWith at h
    omega
  le_low := by
    unfold Pending.BegunWith at h
    omega
  high_le := by
    unfold Pending.BegunWith at h
    omega
  valid := fun _ holds => (h.holds_iff.1 holds).1

/-- One more octet within the bounds brings six bits of the code points that still go on. -/
theorem push_bits_iff (hsound : begun.Sound) (hlow : begun.low ≤ octet.toNat)
    (hhigh : octet.toNat ≤ begun.high) :
    (begun.push octet).bits = leadingBits (begun.owed - 1) n ↔
      begun.Holds n ∧ octet.toNat = leadingBits (begun.owed - 1) n % 64 + 0x80 := by
  have split : leadingBits begun.owed n = leadingBits (begun.owed - 1) n / 64 := by
    rw [← leadingBits, Nat.succ_eq_add_one, Nat.sub_add_cancel hsound.owed_pos]
  have low := hsound.le_low
  have high := hsound.high_le
  unfold Pending.Holds Pending.push
  rw [split]
  dsimp only
  omega

/-- A character that is still not ended after one more octet is as sound as before. -/
theorem Pending.Sound.push (hsound : begun.Sound) (hlow : begun.low ≤ octet.toNat)
    (hhigh : octet.toNat ≤ begun.high) (howed : (begun.push octet).owed ≠ 0) :
    (begun.push octet).Sound where
  owed_pos := Nat.pos_of_ne_zero howed
  le_low := Nat.le_refl _
  high_le := Nat.le_refl _
  valid := by
    rintro n ⟨hbits, -⟩
    exact hsound.valid n ((push_bits_iff hsound hlow hhigh).1 hbits).1

/-! ### Reading on -/

/-- The octets that lead from a state of the reader to given characters: between characters those
of the characters, and within one those that are owed and then those of the other characters. -/
def Follows : Option Pending → List UInt8 → List Char → Prop
  | none, octets, cs => octets = cs.flatMap String.utf8EncodeChar
  | some begun, octets, cs =>
    ∃ c others tail, cs = c :: others ∧ octets = tail ++ others.flatMap String.utf8EncodeChar ∧
      begun.Holds c.toNat ∧ tail.map UInt8.toNat = tails begun.owed c.toNat

theorem toNat_ofNat (h : n.isValidChar) : (Char.ofNat n).toNat = n := by
  rw [Char.ofNat, dif_pos h]
  rfl

/-- The bits of six in an octet of continuation lie within its bounds. -/
theorem holds_push (hbits : (begun.push octet).bits = leadingBits (begun.owed - 1) n) :
    (begun.push octet).Holds n := by
  refine ⟨hbits, ?_⟩
  change 0x80 ≤ _ ∧ _ ≤ 0xbf
  omega

/-- One more octet within a character: it must lie within the bounds, and it ends the character
or leaves one that is begun. -/
theorem follows_cons_iff (hsound : begun.Sound) :
    Follows (some begun) (octet :: rest) cs ↔
      (begun.low ≤ octet.toNat ∧ octet.toNat ≤ begun.high) ∧
        if (begun.push octet).owed = 0 then
          ∃ others, cs = Char.ofNat (begun.push octet).bits :: others ∧ Follows none rest others
        else Follows (some (begun.push octet)) rest cs := by
  have left : (begun.push octet).owed = begun.owed - 1 := rfl
  have owed : begun.owed = (begun.push octet).owed + 1 := by
    rw [left, Nat.sub_add_cancel hsound.owed_pos]
  constructor
  · rintro ⟨c, others, tail, rfl, hrest, holds, htail⟩
    rw [owed] at htail
    cases tail with
    | nil => cases htail
    | cons first tail =>
      obtain ⟨rfl, rfl⟩ := List.cons.inj hrest
      obtain ⟨hfirst, htail⟩ := List.cons.inj htail
      -- The octet has the next six bits of the character, which the bounds are about.
      have bounds : begun.low ≤ octet.toNat ∧ octet.toNat ≤ begun.high := by
        rw [hfirst]
        exact holds.2
      have bits := (push_bits_iff hsound bounds.1 bounds.2).2 ⟨holds, hfirst⟩
      refine ⟨bounds, ?_⟩
      split_ifs with hended
      · rw [hended] at htail
        rw [← left, hended] at bits
        rw [List.map_eq_nil_iff.1 htail, bits, leadingBits, Char.ofNat_toNat]
        exact ⟨others, rfl, rfl⟩
      · exact ⟨c, others, tail, rfl, rfl, holds_push bits, htail⟩
  · rintro ⟨bounds, hnext⟩
    split_ifs at hnext with hended
    · obtain ⟨others, rfl, rfl⟩ := hnext
      have bits : (begun.push octet).bits =
          leadingBits (begun.owed - 1) (begun.push octet).bits := by
        rw [← left, hended]
        rfl
      obtain ⟨holds, hfirst⟩ := (push_bits_iff hsound bounds.1 bounds.2).1 bits
      have code := toNat_ofNat (hsound.valid _ holds)
      refine ⟨_, others, [octet], rfl, rfl, ?_, ?_⟩
      · rw [code]
        exact holds
      · rw [code, owed, hended, List.map_singleton, hfirst, ← left, hended]
        rfl
    · obtain ⟨c, others, tail, rfl, rfl, ⟨hbits, -⟩, htail⟩ := hnext
      obtain ⟨holds, hfirst⟩ := (push_bits_iff hsound bounds.1 bounds.2).1 hbits
      refine ⟨c, others, octet :: tail, rfl, rfl, holds, ?_⟩
      rw [owed, List.map_cons, htail, hfirst]
      rfl

/-- What follows from the first octet on is what follows it once a character is begun. -/
theorem follows_begun_iff (h : begin? position octet = some begun) :
    Follows (some begun) octets cs ↔ Follows none (octet :: octets) cs := by
  have started := begunWith_of_begin? h
  simp only [Follows, flatMap_eq_cons_iff, utf8EncodeChar_eq_cons_iff, started.holds_iff]
  constructor
  · rintro ⟨c, others, tail, rfl, rfl, ⟨-, hlead⟩, htail⟩
    rw [← started.extent_eq hlead] at htail
    exact ⟨c, others, tail, rfl, ⟨hlead, htail.symm⟩, rfl⟩
  · rintro ⟨c, others, tail, rfl, ⟨hlead, htail⟩, rfl⟩
    rw [started.extent_eq hlead] at htail
    exact ⟨c, others, tail, rfl, rfl, ⟨c.valid, hlead⟩, htail.symm⟩

/-- A first octet of seven bits is a character by itself. -/
theorem follows_ascii_iff (h : octet.toNat < 0x80) :
    Follows none (octet :: octets) cs ↔
      ∃ others, cs = Char.ofNat octet.toNat :: others ∧ Follows none octets others := by
  simp only [Follows, flatMap_eq_cons_iff, utf8EncodeChar_eq_cons_iff]
  constructor
  · rintro ⟨c, others, tail, rfl, ⟨hlead, htail⟩, rfl⟩
    have code : c.toNat = octet.toNat := by
      unfold lead at hlead
      split_ifs at hlead <;> omega
    have single : extent c.toNat = 0 := if_pos (code ▸ Nat.le_of_lt_succ h)
    rw [single] at htail
    rw [← code, Char.ofNat_toNat, List.map_eq_nil_iff.1 htail.symm]
    exact ⟨others, rfl, rfl⟩
  · rintro ⟨others, rfl, rfl⟩
    have code : (Char.ofNat octet.toNat).toNat = octet.toNat := toNat_ofNat (.inl (by omega))
    have single : extent octet.toNat = 0 := if_pos (Nat.le_of_lt_succ h)
    refine ⟨_, others, [], rfl, ?_, rfl⟩
    rw [code, single]
    exact ⟨if_pos (Nat.le_of_lt_succ h), rfl⟩

/-- Reading gives the characters that follow, from whatever state it goes on. -/
theorem decodeFrom_eq_ok_iff (hsound : ∀ begun, pending = some begun → begun.Sound) :
    decodeFrom pending position octets = .ok cs ↔ Follows pending octets cs := by
  induction octets generalizing pending position cs with
  | nil =>
    cases pending with
    | none => cases cs <;> simp [decodeFrom, Follows, String.utf8EncodeChar_ne_nil]
    | some begun =>
      refine iff_of_false nofun ?_
      rintro ⟨c, others, tail, -, hnone, -, htail⟩
      obtain ⟨count, hcount⟩ := Nat.exists_eq_succ_of_ne_zero
        (Nat.ne_of_gt (hsound begun rfl).owed_pos)
      rw [(List.append_eq_nil_iff.1 hnone.symm).1, hcount] at htail
      cases htail
  | cons octet rest ih =>
    have between : ∀ begun, (none : Option Pending) = some begun → begun.Sound := by
      rintro begun ⟨⟩
    cases pending with
    | none =>
      rw [decodeFrom]
      by_cases ascii : octet.toNat < 0x80
      · rw [if_pos ascii, map_eq_ok_iff, follows_ascii_iff ascii]
        simp only [ih between]
        exact exists_congr fun _ => by rw [and_comm, eq_comm]
      · rw [if_neg ascii]
        cases hbegin : begin? position octet with
        | none =>
          refine iff_of_false nofun fun h => ?_
          obtain ⟨c, -, tail, -, hc, -⟩ := flatMap_eq_cons_iff.1 h
          exact lead_ne_of_begin? hbegin (Nat.le_of_not_lt ascii) c
            (utf8EncodeChar_eq_cons_iff.1 hc).1
        | some begun =>
          rw [← follows_begun_iff hbegin]
          exact ih fun _ h => Option.some.inj h ▸ (begunWith_of_begin? hbegin).sound
    | some begun =>
      have sound := hsound begun rfl
      rw [decodeFrom, follows_cons_iff sound]
      dsimp only
      by_cases bounds : begun.low ≤ octet.toNat ∧ octet.toNat ≤ begun.high
      · rw [if_pos bounds, and_iff_right bounds]
        split_ifs with hended
        · rw [map_eq_ok_iff]
          simp only [ih between]
          exact exists_congr fun _ => by rw [and_comm, eq_comm]
        · exact ih fun _ h => Option.some.inj h ▸ sound.push bounds.1 bounds.2 hended
      · rw [if_neg bounds]
        exact iff_of_false nofun fun h => bounds h.1

/-! ### Texts -/

theorem toList_loop (bytes : ByteArray) (i : Nat) (read : List UInt8) :
    ByteArray.toList.loop bytes i read = read.reverse ++ bytes.data.toList.drop i := by
  fun_induction ByteArray.toList.loop bytes i read with
  | case1 i read inside ih =>
    have size : i < bytes.data.toList.length := by simpa using inside
    have next : bytes.get! i = bytes.data.toList[i] := by
      rw [ByteArray.get!, getElem!_pos bytes.data i inside, Array.getElem_toList]
    rw [ih, List.drop_eq_getElem_cons size, next]
    simp
  | case2 i read outside =>
    have size : bytes.data.toList.length ≤ i := by simpa using outside
    rw [List.drop_eq_nil_of_le size, List.append_nil]

/-- A text is encoded character by character. -/
theorem encode_eq_flatMap (s : String) : encode s = s.toList.flatMap String.utf8EncodeChar := by
  have octets : s.toUTF8 = (s.toList.flatMap String.utf8EncodeChar).toByteArray :=
    s.utf8Encode_toList.symm
  rw [encode, ByteArray.toList, toList_loop, octets, List.toList_data_toByteArray]
  rfl

/-- The characters that are read are those whose encoding was given. -/
theorem decode_eq_ok_iff : decode octets = .ok cs ↔ octets = encode (String.ofList cs) := by
  have between : ∀ begun, (none : Option Pending) = some begun → begun.Sound := by
    rintro begun ⟨⟩
  rw [decode, decodeFrom_eq_ok_iff between, encode_eq_flatMap, String.toList_ofList]
  rfl

/-- What is written is read back. -/
theorem decode_encode (s : String) : decode (encode s) = .ok s.toList := by
  rw [decode_eq_ok_iff, String.ofList_toList]

/-! ### Texts with an encoding -/

section Halves

variable [Halves] {s : String}

/-- A text that has an encoding: no character in it stands for half of a pair. -/
def IsEncodable (s : String) : Prop :=
  ∀ c ∈ s.toList, half? c = none

theorem firstHalves_eq_none_iff (position : Nat) (cs : List Char) :
    firstHalves position cs = none ↔ ∀ c ∈ cs, half? c = none := by
  induction cs generalizing position with
  | nil => exact iff_of_true rfl nofun
  | cons c rest ih =>
    rw [List.forall_mem_cons, ← ih (position + 1), firstHalves]
    cases half? c <;> simp

theorem isEncodable_iff : IsEncodable s ↔ unencodable? s = none :=
  (firstHalves_eq_none_iff 0 s.toList).symm

theorem half?_of_ascii (h : c.toNat < 0x80) : half? c = none := by
  rw [Option.eq_none_iff_forall_ne_some]
  intro code half
  exact Halves.not_ascii_of_half? half h

/-- A line feed at the end of a text does not matter to its encoding. -/
theorem isEncodable_append_newline : IsEncodable (s ++ "\n") ↔ IsEncodable s := by
  have plain : half? '\n' = none := half?_of_ascii (by decide)
  simp [IsEncodable, or_imp, forall_and, plain]

end Halves

end GnuplotScript.Text.Utf8
