import Mathlib.Data.Fintype.Pigeonhole
import OpenApi.Operation
import OpenApi.Proofs.Document.Parts

/-!
# Chains of references

An entry may be a reference to an entry that is itself a reference. Such a chain ends at an entry
in place, breaks off at a reference without a well-formed target, or comes around to an entry on it:
a document is finite, so that no chain is endless in any other way. References are followed along a
chain as far as the fuel goes, and no other chain is too deep for it.
-/

namespace OpenApi

namespace Referable

variable {α : Type} {doc : Document} {read : Json → Except Json.Mismatch (Referable α)}
  {x y z : Referable α} {a : α} {m n : Nat}

/-- The second entry is read from the target of the first one, a reference. -/
inductive Follows (doc : Document) (read : Json → Except Json.Mismatch (Referable α)) :
    Referable α → Referable α → Prop where
  | target {pointer : String} {v : Json} {y : Referable α} (leads : doc.pointer? pointer = some v)
      (holds : read v = .ok y) : Follows doc read (.reference ("#" ++ pointer)) y

/-- So many references are followed from the first entry to the second. -/
inductive LeadsTo (doc : Document) (read : Json → Except Json.Mismatch (Referable α)) :
    Nat → Referable α → Referable α → Prop where
  | here (x : Referable α) : LeadsTo doc read 0 x x
  | step {n : Nat} {x y z : Referable α} (follows : Follows doc read x y)
      (leads : LeadsTo doc read n y z) : LeadsTo doc read (n + 1) x z

/-- The chain that starts at the entry comes around to one of its entries. -/
def Circles (doc : Document) (read : Json → Except Json.Mismatch (Referable α))
    (x : Referable α) : Prop :=
  ∃ y before around, LeadsTo doc read before x y ∧ 0 < around ∧ LeadsTo doc read around y y

/-- After so many references there is one whose target is not found or is no such entry. -/
def BreaksOff (doc : Document) (read : Json → Except Json.Mismatch (Referable α)) (n : Nat)
    (x : Referable α) : Prop :=
  ∃ path, LeadsTo doc read n x (.reference path) ∧ ∀ y, ¬Follows doc read (.reference path) y

/-! ## One entry after another -/

theorem Follows.unique (hy : Follows doc read x y) (hz : Follows doc read x z) : y = z := by
  obtain ⟨leads, holds⟩ := hy
  generalize hpath : Referable.reference _ = x at hz
  obtain ⟨leads', holds'⟩ := hz
  obtain rfl := String.append_right_inj "#" |>.1 (Referable.reference.inj hpath)
  obtain rfl := Option.some.inj (leads.symm.trans leads')
  exact Except.ok.inj (holds.symm.trans holds')

theorem LeadsTo.unique (hy : LeadsTo doc read n x y) (hz : LeadsTo doc read n x z) : y = z := by
  induction hy with
  | here => cases hz; rfl
  | step follows _ ih =>
    cases hz with
    | step follows' leads => exact ih (follows.unique follows' ▸ leads)

theorem LeadsTo.trans (hy : LeadsTo doc read m x y) (hz : LeadsTo doc read n y z) :
    LeadsTo doc read (m + n) x z := by
  induction hy with
  | here => rwa [Nat.zero_add]
  | step follows _ ih =>
    rw [Nat.add_right_comm]
    exact .step follows (ih hz)

theorem LeadsTo.split (h : LeadsTo doc read (m + n) x z) :
    ∃ y, LeadsTo doc read m x y ∧ LeadsTo doc read n y z := by
  induction m generalizing x with
  | zero => exact ⟨x, .here x, by rwa [Nat.zero_add] at h⟩
  | succ m ih =>
    rw [Nat.add_right_comm] at h
    cases h with
    | step follows leads =>
      obtain ⟨y, hy, hz⟩ := ih leads
      exact ⟨y, .step follows hy, hz⟩

theorem LeadsTo.cut (h : LeadsTo doc read n x z) (within : m ≤ n) :
    ∃ y, LeadsTo doc read m x y := by
  rw [← Nat.add_sub_cancel' within] at h
  obtain ⟨y, hy, _⟩ := h.split
  exact ⟨y, hy⟩

theorem follows_of_leadsTo (h : LeadsTo doc read 1 x y) : Follows doc read x y := by
  cases h with
  | step follows leads =>
    cases leads
    exact follows

/-! ## How a chain goes on -/

theorem Circles.endless (h : Circles doc read x) (n : Nat) : ∃ y, LeadsTo doc read n x y := by
  obtain ⟨y, before, around, hbefore, hpos, haround⟩ := h
  have rounds : ∀ k, LeadsTo doc read (k * around) y y := by
    intro k
    induction k with
    | zero => rw [Nat.zero_mul]; exact .here y
    | succ k ih => rw [Nat.succ_mul]; exact ih.trans haround
  -- A round follows one reference at least, so that `n` rounds are enough.
  refine (hbefore.trans (rounds n)).cut ?_
  have := Nat.le_mul_of_pos_right n hpos
  omega

theorem endless_or_stops (doc : Document) (read : Json → Except Json.Mismatch (Referable α))
    (x : Referable α) :
    (∀ n, ∃ y, LeadsTo doc read n x y) ∨
      ∃ n y, LeadsTo doc read n x y ∧ ∀ z, ¬Follows doc read y z := by
  by_cases stops : ∃ n y, LeadsTo doc read n x y ∧ ∀ z, ¬Follows doc read y z
  · exact .inr stops
  · refine .inl fun n => ?_
    push Not at stops
    induction n with
    | zero => exact ⟨x, .here x⟩
    | succ n ih =>
      obtain ⟨y, hy⟩ := ih
      obtain ⟨z, hz⟩ := stops n y hy
      exact ⟨z, hy.trans (.step hz (.here z))⟩

theorem LeadsTo.le_of_stops (h : LeadsTo doc read n x z) (stops : ∀ w, ¬Follows doc read z w)
    (hy : LeadsTo doc read m x y) : m ≤ n := by
  by_contra hlt
  obtain ⟨k, rfl⟩ := Nat.exists_eq_add_of_lt (Nat.lt_of_not_le hlt)
  rw [Nat.add_assoc] at hy
  obtain ⟨w, hw, hrest⟩ := hy.split
  obtain rfl := h.unique hw
  cases hrest with
  | step follows _ => exact stops _ follows

theorem not_follows_inline (a : α) (y : Referable α) : ¬Follows doc read (.inline a) y := by
  intro h
  cases h

theorem read_cases {choice : String} {readInline : Json → Except Json.Mismatch α} {v : Json}
    (h : Referable.read choice readInline v = .ok x) :
    (∃ path, v.field? "$ref" = some (.string path) ∧ x = .reference path) ∨
      ∃ a, readInline v = .ok a ∧ x = .inline a := by
  unfold Referable.read Json.Typed.choice at h
  split at h
  · rename_i r hr
    obtain rfl := Except.ok.inj h
    unfold read? at hr
    split at hr
    · rename_i path hfield
      exact .inl ⟨path, hfield, (Option.some.inj hr).symm⟩
    · obtain ⟨a, hread, rfl⟩ := Option.map_eq_some_iff.1 hr
      exact .inr ⟨a, Json.Typed.toOption_eq_some_iff.1 hread, rfl⟩
  · cases h

section Finite

variable {choice : String} {readInline : Json → Except Json.Mismatch α}

theorem mem_references_of_read {v : Json} {path : String}
    (h : Referable.read choice readInline v = .ok (.reference path)) : path ∈ v.references := by
  rcases read_cases h with ⟨_, hfield, he⟩ | ⟨_, _, he⟩
  · obtain rfl := Referable.reference.inj he
    cases v with
    | object fields =>
      exact Json.mem_fieldReferences (OrderedMap.mem_of_get? hfield) (.inl (by rfl))
    | _ => cases hfield
  · cases he

theorem Follows.mem_references {path : String}
    (h : Follows doc (Referable.read choice readInline) x (.reference path)) :
    path ∈ doc.raw.references := by
  obtain ⟨leads, holds⟩ := h
  have hmem := mem_references_of_read holds
  rcases Json.below_of_pointer? leads with rfl | hbelow
  · exact hmem
  · exact Json.references_subset_of_below hbelow hmem

theorem circles_of_endless
    (endless : ∀ n, ∃ y, LeadsTo doc (Referable.read choice readInline) n x y) :
    Circles doc (Referable.read choice readInline) x := by
  -- The first entry may come from anywhere, all later ones stand in the document.
  have later : ∀ n, ∃ path : {path // path ∈ doc.raw.references},
      LeadsTo doc (Referable.read choice readInline) (n + 1) x (.reference path) := by
    intro n
    obtain ⟨z, hz⟩ := endless (n + 1 + 1)
    obtain ⟨y, hy, hz⟩ := hz.split
    obtain ⟨w, _, hw⟩ := hy.split
    cases hz with
    | step follows _ =>
      cases follows with
      | target _ _ => exact ⟨⟨_, (follows_of_leadsTo hw).mem_references⟩, hy⟩
  choose path leads using later
  -- There are not enough references in it for all of them, and the circle is what lies between two
  -- that are the same.
  obtain ⟨m, n, hne, heq⟩ := Finite.exists_ne_map_eq_of_infinite path
  wlog hlt : m < n generalizing m n
  · exact this n m hne.symm heq.symm (by omega)
  obtain ⟨around, rfl⟩ := Nat.exists_eq_add_of_lt hlt
  have hsecond := leads (m + around + 1)
  rw [show m + around + 1 + 1 = m + 1 + (around + 1) by omega, ← heq] at hsecond
  obtain ⟨y, hfirst, haround⟩ := hsecond.split
  obtain rfl := (leads m).unique hfirst
  exact ⟨_, m + 1, around + 1, leads m, Nat.succ_pos _, haround⟩

theorem chain_cases (doc : Document) (choice : String)
    (readInline : Json → Except Json.Mismatch α) (x : Referable α) :
    (∃ n a, LeadsTo doc (Referable.read choice readInline) n x (.inline a)) ∨
      (∃ n, BreaksOff doc (Referable.read choice readInline) n x) ∨
      Circles doc (Referable.read choice readInline) x := by
  rcases endless_or_stops doc (Referable.read choice readInline) x with
    endless | ⟨n, y, hy, stops⟩
  · exact .inr (.inr (circles_of_endless endless))
  · cases y with
    | inline a => exact .inl ⟨n, a, hy⟩
    | reference path => exact .inr (.inl ⟨n, path, hy, stops⟩)

end Finite

end Referable

namespace Operation

open Referable

/-! ## Following a chain -/

variable {α : Type} {doc : Document} {read : Json → Except Json.Mismatch (Referable α)}
  {x y : Referable α} {a : α} {m n fuel : Nat} {path location : String} {tooDeep : Unsupported}

theorem referenced_append {α : Type} {read : Json → Except Json.Mismatch α} {pointer : String}
    {v : Json} (leads : doc.pointer? pointer = some v) (location : String) :
    referenced doc read ("#" ++ pointer) location =
      (read v).mapError fun m => .unsupported ("#" ++ pointer) (.unexpectedTarget m) := by
  have hdrop : Text.dropStart? ['#'] ("#" ++ pointer).toList = some pointer.toList := by
    rw [Text.dropStart?_eq_some_iff, String.toList_append]
    rfl
  rw [referenced, hdrop, Option.bind_some, String.ofList_toList, leads]

/-- The error of a reference whose target is not found or is no such entry. -/
def TellsTarget (location path : String) (e : SchemaError) : Prop :=
  e = .unsupported location (.targetNotFound path) ∨
    ∃ m, e = .unsupported path (.unexpectedTarget m)

theorem referenced_cases (doc : Document) (read : Json → Except Json.Mismatch (Referable α))
    (path location : String) :
    (∃ y, Follows doc read (.reference path) y ∧ referenced doc read path location = .ok y) ∨
      ∃ e, TellsTarget location path e ∧ referenced doc read path location = .error e := by
  unfold referenced
  split
  · exact .inr ⟨_, .inl rfl, rfl⟩
  · rename_i v hv
    obtain ⟨pointer, hdrop, leads⟩ := Option.bind_eq_some_iff.1 hv
    have hpath : path = "#" ++ String.ofList pointer := by
      apply String.toList_injective
      rw [Text.dropStart?_eq_some_iff.1 hdrop, String.toList_append]
      exact congrArg ('#' :: ·) String.toList_ofList.symm
    cases holds : read v with
    | ok y => exact .inl ⟨y, hpath ▸ .target leads holds, rfl⟩
    | error m => exact .inr ⟨_, .inr ⟨m, rfl⟩, rfl⟩

theorem settle_of_follows (h : Follows doc read x y) (fuel : Nat) :
    settle doc read location tooDeep (fuel + 1) x = settle doc read location tooDeep fuel y := by
  cases h with
  | target leads holds =>
    rw [settle, referenced_append leads, holds]
    rfl

theorem settle_of_leadsTo (h : LeadsTo doc read n x y) (fuel : Nat) :
    settle doc read location tooDeep (n + fuel) x = settle doc read location tooDeep fuel y := by
  induction h with
  | here => rw [Nat.zero_add]
  | step follows _ ih => rw [Nat.add_right_comm, settle_of_follows follows, ih]

theorem settle_of_ends (h : LeadsTo doc read n x (.inline a)) (enough : n < fuel) :
    settle doc read location tooDeep fuel x = .ok a := by
  obtain ⟨k, rfl⟩ := Nat.exists_eq_add_of_lt enough
  rw [Nat.add_assoc, settle_of_leadsTo h, settle]

theorem settle_of_tooDeep (h : LeadsTo doc read fuel x y) :
    settle doc read location tooDeep fuel x = .error (.unsupported location tooDeep) := by
  rw [← Nat.add_zero fuel, settle_of_leadsTo h, settle]

theorem settle_of_breaksOff (h : BreaksOff doc read n x) (enough : n < fuel) :
    ∃ path e, TellsTarget location path e ∧
      settle doc read location tooDeep fuel x = .error e := by
  obtain ⟨path, hpath, stops⟩ := h
  obtain ⟨k, rfl⟩ := Nat.exists_eq_add_of_lt enough
  rcases referenced_cases doc read path location with ⟨y, follows, _⟩ | ⟨e, tells, he⟩
  · exact absurd follows (stops y)
  · refine ⟨path, e, tells, ?_⟩
    rw [Nat.add_assoc, settle_of_leadsTo hpath, settle, he]
    rfl

theorem settle_cases (doc : Document) (read : Json → Except Json.Mismatch (Referable α))
    (location : String) (tooDeep : Unsupported) (fuel : Nat) (x : Referable α) :
    (∃ n < fuel, ∃ a, LeadsTo doc read n x (.inline a) ∧
        settle doc read location tooDeep fuel x = .ok a) ∨
      (∃ n < fuel, BreaksOff doc read n x ∧ ∃ path e, TellsTarget location path e ∧
        settle doc read location tooDeep fuel x = .error e) ∨
      ∃ y, LeadsTo doc read fuel x y ∧
        settle doc read location tooDeep fuel x = .error (.unsupported location tooDeep) := by
  have deep : ∀ {y}, LeadsTo doc read fuel x y → ∃ y, LeadsTo doc read fuel x y ∧
      settle doc read location tooDeep fuel x = .error (.unsupported location tooDeep) :=
    fun h => ⟨_, h, settle_of_tooDeep h⟩
  rcases endless_or_stops doc read x with endless | ⟨n, y, hy, stops⟩
  · obtain ⟨y, hy⟩ := endless fuel
    exact .inr (.inr (deep hy))
  · by_cases enough : n < fuel
    · cases y with
      | inline a => exact .inl ⟨n, enough, a, hy, settle_of_ends hy enough⟩
      | reference path =>
        have breaks : BreaksOff doc read n x := ⟨path, hy, stops⟩
        exact .inr (.inl ⟨n, enough, breaks, settle_of_breaksOff breaks enough⟩)
    · obtain ⟨z, hz⟩ := hy.cut (Nat.le_of_not_lt enough)
      exact .inr (.inr (deep hz))

theorem settle_eq_ok_iff :
    settle doc read location tooDeep fuel x = .ok a ↔
      ∃ n < fuel, LeadsTo doc read n x (.inline a) := by
  refine ⟨fun h => ?_, fun ⟨n, enough, hn⟩ => settle_of_ends hn enough⟩
  rcases settle_cases doc read location tooDeep fuel x with
    ⟨n, enough, a', hn, ha⟩ | ⟨_, _, _, _, _, _, he⟩ | ⟨_, _, he⟩
  · rw [ha] at h
    exact ⟨n, enough, Except.ok.inj h ▸ hn⟩
  · rw [he] at h
    cases h
  · rw [he] at h
    cases h

theorem settle_eq_tooDeep_iff
    (apart : ∀ path, ¬TellsTarget location path (.unsupported location tooDeep)) :
    settle doc read location tooDeep fuel x = .error (.unsupported location tooDeep) ↔
      ∃ y, LeadsTo doc read fuel x y := by
  refine ⟨fun h => ?_, fun ⟨y, hy⟩ => settle_of_tooDeep hy⟩
  rcases settle_cases doc read location tooDeep fuel x with
    ⟨_, _, _, _, ha⟩ | ⟨_, _, _, path, e, tells, he⟩ | ⟨y, hy, _⟩
  · rw [ha] at h
    cases h
  · rw [he] at h
    exact absurd (Except.error.inj h ▸ tells) (apart path)
  · exact ⟨y, hy⟩

end Operation

end OpenApi
