import GnuplotScript.Json.Document
import GnuplotScript.Proofs.Datum.Entries
import GnuplotScript.Proofs.Datum.Writable
import GnuplotScript.Proofs.Value.Encoding
import Mathlib.Data.List.TakeWhile

/-!
# Data that are read

Reading a document gives data of documents and no others: neither tuples nor byte strings, and
objects whose members have different names, however often a name was written. No number is read
that could not be written again.

## Main definitions

* `Datum.IsRead` — data of documents that can be written
* `Datum.IsMembers` — the entries of objects

## Main results

* `isMembers_ofEntries` — of several members of one name one is left
* `isRead_of_read` — reading gives data of documents that can be written
-/

namespace GnuplotScript

variable {d : Datum} {entries : List (Datum × Datum)} {ds : List Datum}
  {cs rest : List Char} {depth : Nat}

namespace Datum

/-- What reading a document gives: data of documents that can be written. -/
structure IsRead (d : Datum) : Prop where
  isJson : d.IsJson
  isWritable : d.isWritable = true

theorem isRead_list (h : ∀ d ∈ ds, d.IsRead) : (list ds).IsRead where
  isJson := .list fun d hd => (h d hd).isJson
  isWritable := (isWritable_iff_items rfl).2 fun d hd => (h d hd).isWritable

/-- The members of an object as they are written, in which a name may occur again. -/
def AreNamed (entries : List (Datum × Datum)) : Prop :=
  ∀ e ∈ entries, ∃ (name : String) (d : Datum), d.IsRead ∧ e = (.text name, d)

/-- The entries of an object. -/
def IsMembers (entries : List (Datum × Datum)) : Prop :=
  (entries.map Prod.fst).Nodup ∧ AreNamed entries

theorem AreNamed.exists_members (h : AreNamed entries) :
    ∃ members : List (String × Datum), (∀ m ∈ members, m.2.IsRead) ∧
      entries = entriesOf members := by
  induction entries with
  | nil => exact ⟨[], nofun, rfl⟩
  | cons e rest ih =>
    obtain ⟨⟨name, d, hd, rfl⟩, hrest⟩ := List.forall_mem_cons.1 h
    obtain ⟨members, hmembers, rfl⟩ := ih hrest
    exact ⟨(name, d) :: members, List.forall_mem_cons.2 ⟨hd, hmembers⟩, rfl⟩

theorem AreNamed.isWritable (h : AreNamed entries) : (mapping entries).isWritable = true := by
  rw [Datum.isWritable, areWritableEntries_eq_all, List.all_eq_true]
  intro e he
  obtain ⟨name, d, hd, rfl⟩ := h e he
  exact hd.isWritable

theorem IsMembers.isRead (h : IsMembers entries) : (mapping entries).IsRead := by
  obtain ⟨distinct, named⟩ := h
  refine ⟨?_, named.isWritable⟩
  obtain ⟨members, hmembers, rfl⟩ := named.exists_members
  exact .mapping (nodup_keys_entriesOf_iff.1 distinct) fun m hm => (hmembers m hm).isJson

/-- Of several members of one name one is left. -/
theorem isMembers_ofEntries (h : AreNamed entries) : IsMembers (ofEntries entries) := by
  obtain ⟨pairs, hpairs, rfl⟩ := h.exists_members
  obtain ⟨members, hmembers, distinct, last⟩ := exists_ofEntries pairs
  have read : ∀ m ∈ members, m.2.IsRead := by
    intro m hm
    have given : pairs.reverse.lookup m.1 = some m.2 :=
      (last m.1).symm.trans ((lookup_eq_some_iff_mem distinct).2 hm)
    exact hpairs m (List.mem_reverse.1 (mem_of_lookup_eq_some given))
  rw [hmembers]
  refine ⟨nodup_keys_entriesOf_iff.2 distinct, fun e he => ?_⟩
  obtain ⟨m, hm, rfl⟩ := List.mem_map.1 he
  exact ⟨m.1, m.2, read m hm, rfl⟩

end Datum

namespace Json

/-! ### Numbers and words -/

theorem isDigit_of_whole? {whole : List Char} (h : whole? cs = some (whole, rest)) :
    ∀ c ∈ whole, isDigit c = true := by
  unfold whole? at h
  split at h
  next after =>
    cases h
    exact List.forall_mem_singleton.2 rfl
  next =>
    split at h
    next => cases h
    next =>
      cases h
      intro c hc
      exact List.mem_takeWhile_imp hc

theorem isDigit_of_numeral? {n : Numeral} (h : numeral? cs = some (n, rest)) :
    ∀ c ∈ n.whole, isDigit c = true := by
  obtain ⟨⟨whole, after⟩, hwhole, heq⟩ := Option.map_eq_some_iff.1 h
  cases heq
  exact isDigit_of_whole? hwhole

theorem digit_lt {c : Char} (h : isDigit c = true) : c.toNat - 0x30 < 10 := by
  have bounds : '0' ≤ c ∧ c ≤ '9' := by simpa [isDigit] using h
  have most : c.toNat ≤ 0x39 := bounds.2
  omega

/-- Digits that are not too many are read as a number that can be written. -/
theorem isRead_of_toDatum {n : Numeral} (hdigits : ∀ c ∈ n.whole, isDigit c = true)
    (h : n.toDatum = .ok d) : d.IsRead := by
  unfold Numeral.toDatum at h
  split at h
  · split at h
    · cases h
    · next few =>
      cases h
      refine ⟨.int _, ?_⟩
      apply Decimal.isWritable_signed_ofDigits
      · rw [List.forall_mem_map]
        exact fun c hc => digit_lt (hdigits c hc)
      · rw [List.length_map]
        exact Nat.not_lt.1 few
  · cases h
    exact ⟨.float _, rfl⟩

theorem isRead_of_mem_words : ∀ word ∈ words, word.2.IsRead := by
  simp only [words, List.forall_mem_cons]
  exact ⟨⟨.null, rfl⟩, ⟨.bool true, rfl⟩, ⟨.bool false, rfl⟩, ⟨.float _, rfl⟩, ⟨.float _, rfl⟩,
    ⟨.float _, rfl⟩, nofun⟩

theorem isRead_of_scalar (h : scalar cs = .ok (d, rest)) : d.IsRead := by
  unfold scalar at h
  split at h
  next word other found =>
    cases h
    exact isRead_of_mem_words _ (List.mem_of_find?_eq_some found)
  next =>
    split at h
    next n after hnumeral =>
      obtain ⟨e, he, heq⟩ := map_eq_ok_iff.1 h
      cases heq
      exact isRead_of_toDatum (isDigit_of_numeral? hnumeral) he
    next => cases h

/-! ### Documents -/

section StandIns

variable [Text.StandIns]

/-- What is read up to some depth. -/
structure Reads (depth : Nat) : Prop where
  value : ∀ {cs d rest}, value depth cs = .ok (d, rest) → d.IsRead
  items : ∀ {cs ds rest}, items depth cs = .ok (ds, rest) → ∀ d ∈ ds, d.IsRead
  members : ∀ {cs entries rest}, members depth cs = .ok (entries, rest) → Datum.AreNamed entries

theorem Reads.value_succ (ih : Reads depth) (h : Json.value (depth + 1) cs = .ok (d, rest)) :
    d.IsRead := by
  unfold Json.value at h
  split at h
  · obtain ⟨s, -, heq⟩ := map_eq_ok_iff.1 h
    cases heq
    exact ⟨.text _, rfl⟩
  · split at h
    · cases h
      exact Datum.isRead_list nofun
    · obtain ⟨ds, hds, heq⟩ := map_eq_ok_iff.1 h
      cases heq
      exact Datum.isRead_list (ih.items hds)
  · split at h
    · cases h
      exact Datum.IsMembers.isRead ⟨List.nodup_nil, nofun⟩
    · obtain ⟨entries, hentries, heq⟩ := map_eq_ok_iff.1 h
      cases heq
      exact (Datum.isMembers_ofEntries (ih.members hentries)).isRead
  · exact isRead_of_scalar h

theorem Reads.items_succ (ih : Reads depth)
    (h : Json.items (depth + 1) cs = .ok (ds, rest)) : ∀ d ∈ ds, d.IsRead := by
  rw [Json.items, bind_eq_ok_iff] at h
  obtain ⟨⟨d, after⟩, hd, h⟩ := h
  dsimp only at h
  split at h
  · cases h
    exact List.forall_mem_singleton.2 (ih.value hd)
  · rw [bind_eq_ok_iff] at h
    obtain ⟨⟨ds, _⟩, hds, heq⟩ := h
    cases heq
    exact List.forall_mem_cons.2 ⟨ih.value hd, ih.items hds⟩
  · cases h

theorem Reads.members_succ (ih : Reads depth)
    (h : Json.members (depth + 1) cs = .ok (entries, rest)) : Datum.AreNamed entries := by
  unfold Json.members at h
  split at h
  · rw [bind_eq_ok_iff] at h
    obtain ⟨⟨name, after⟩, -, h⟩ := h
    dsimp only at h
    split at h
    · rw [bind_eq_ok_iff] at h
      obtain ⟨⟨d, after⟩, hd, h⟩ := h
      dsimp only at h
      have first := ih.value hd
      split at h
      · cases h
        exact List.forall_mem_singleton.2 ⟨_, d, first, rfl⟩
      · rw [bind_eq_ok_iff] at h
        obtain ⟨⟨entries, _⟩, hentries, heq⟩ := h
        cases heq
        exact List.forall_mem_cons.2 ⟨⟨_, d, first, rfl⟩, ih.members hentries⟩
      · cases h
    · cases h
  · cases h

theorem reads (depth : Nat) : Reads depth := by
  induction depth with
  | zero => exact ⟨nofun, nofun, nofun⟩
  | succ depth ih => exact ⟨ih.value_succ, ih.items_succ, ih.members_succ⟩

theorem isRead_of_document (h : document cs = .ok d) : d.IsRead := by
  unfold document at h
  split at h
  · cases h
  · rw [bind_eq_ok_iff] at h
    obtain ⟨⟨e, after⟩, he, h⟩ := h
    dsimp only at h
    split at h
    · cases h
      exact (reads _).value he
    · cases h

/-- Reading gives data of documents that can be written. -/
theorem isRead_of_read (h : read cs = .ok d) : d.IsRead := by
  unfold read at h
  cases hdocument : document cs with
  | ok e =>
    rw [hdocument] at h
    cases h
    exact isRead_of_document hdocument
  | error stop =>
    rw [hdocument] at h
    cases h

end StandIns

end Json

end GnuplotScript
