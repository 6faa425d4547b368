import Mathlib.Data.List.Perm.Subperm
import OpenApi.Proofs.OrderedMap
import OpenApi.Proofs.Text.Gaps
import OpenApi.Server

/-!
# Addresses of servers

An address is its server's template with the variables' values in place of their placeholders, all
at once and so in any order. The variables are filled in one after the other, which is the same as
long as the values of some do not form the placeholder of another.
-/

namespace OpenApi.Server

open Text (fill occurrences)

/-! ## Templates -/

/-- A character of a template, or a name in braces without a brace in it. -/
inductive Piece where
  | char (c : Char)
  | hole (name : String)
  deriving DecidableEq, Repr

/-- The name that the next closing brace ends and what follows it, unless a brace opens before. -/
def ended? : List Piece → Option (List Char × List Piece)
  | .char c :: rest =>
    if c = '\x7d' then some ([], rest)
    else if c = '\x7b' then none
    else (ended? rest).map fun (name, after) => (c :: name, after)
  | _ => none

def pieces : List Char → List Piece
  | [] => []
  | c :: rest =>
    match if c = '\x7b' then ended? (pieces rest) else none with
    | some (name, after) => .hole (String.ofList name) :: after
    | none => .char c :: pieces rest

/-- A piece with the values of the variables. A name that is no variable stays as it stands. -/
def Piece.fill (values : OrderedMap String String) : Piece → List Char
  | .char c => [c]
  | .hole name => ((values.get? name).getD (placeholder name)).toList

/-- The template with each placeholder of a variable replaced by its value. -/
def substitute (values : OrderedMap String String) (template : String) : String :=
  String.ofList ((pieces template.toList).flatMap (Piece.fill values))

/-- How often the placeholder of a name stands in a text. -/
def mentions (name text : String) : Nat :=
  occurrences (placeholder name).toList text.toList

example : pieces "\x7ba\x7bb\x7d\x7d".toList =
    [.char '\x7b', .char 'a', .hole "b", .char '\x7d'] := by
  decide

/-- A name that can stand in a placeholder. -/
def Plain (name : String) : Prop :=
  '\x7b' ∉ name.toList ∧ '\x7d' ∉ name.toList

instance (name : String) : Decidable (Plain name) :=
  inferInstanceAs (Decidable (_ ∧ _))

theorem toList_placeholder (name : String) :
    (placeholder name).toList = '\x7b' :: (name.toList ++ ['\x7d']) := by
  simp [placeholder]

theorem not_mem_tail {name : String} (plain : Plain name) : '\x7b' ∉ name.toList ++ ['\x7d'] := by
  simp [plain.1]

theorem prefix_brace_iff {name other : List Char} (plain : '\x7d' ∉ name)
    (plainToo : '\x7d' ∉ other) (rest : List Char) :
    name ++ ['\x7d'] <+: other ++ '\x7d' :: rest ↔ name = other := by
  induction name generalizing other with
  | nil =>
    cases other with
    | nil => simp
    | cons d other =>
      have hd : '\x7d' ≠ d := fun heq => plainToo (heq ▸ List.mem_cons_self)
      simp [hd]
  | cons c name ih =>
    obtain ⟨hc, hname⟩ := not_or.1 (mt List.mem_cons.2 plain)
    cases other with
    | nil => simp [Ne.symm hc]
    | cons d other =>
      rw [List.cons_append, List.cons_append, List.cons_prefix_cons, List.cons.injEq,
        ih hname (mt (List.mem_cons_of_mem d) plainToo)]

theorem placeholder_apart {name other : String} (plain : Plain name) (plainToo : Plain other)
    (ne : name ≠ other) (rest : List Char) :
    ¬ '\x7b' :: (name.toList ++ ['\x7d']) <+: '\x7b' :: (other.toList ++ ['\x7d'] ++ rest) := by
  rw [List.cons_prefix_cons, List.append_assoc, List.singleton_append,
    prefix_brace_iff plain.2 plainToo.2, String.toList_inj]
  exact fun h => ne h.2

/-! ## The pieces of a template -/

theorem pieces_cons_of_ne {c : Char} (h : c ≠ '\x7b') (rest : List Char) :
    pieces (c :: rest) = .char c :: pieces rest := by
  rw [pieces, if_neg h]

theorem pieces_open (rest : List Char) :
    pieces ('\x7b' :: rest) = match ended? (pieces rest) with
      | some (name, after) => .hole (String.ofList name) :: after
      | none => .char '\x7b' :: pieces rest := by
  rw [pieces, if_pos rfl]

theorem eq_of_ended? {ps after : List Piece} {name : List Char}
    (h : ended? ps = some (name, after)) :
    ps = name.map .char ++ .char '\x7d' :: after ∧ '\x7d' ∉ name := by
  fun_induction ended? ps generalizing name with
  | case1 rest =>
    cases h
    exact ⟨rfl, List.not_mem_nil⟩
  | case2 => cases h
  | case3 c rest hclose _ ih =>
    obtain ⟨⟨name', after'⟩, hrest, heq⟩ := Option.map_eq_some_iff.1 h
    cases heq
    obtain ⟨rfl, hname⟩ := ih hrest
    exact ⟨rfl, List.not_mem_cons_of_ne_of_not_mem (Ne.symm hclose) hname⟩
  | case4 => cases h

theorem ended?_append {name : List Char} (opening : '\x7b' ∉ name) (closing : '\x7d' ∉ name)
    (after : List Piece) :
    ended? (name.map .char ++ .char '\x7d' :: after) = some (name, after) := by
  induction name with
  | nil => rfl
  | cons c name ih =>
    obtain ⟨hopen, hopening⟩ := not_or.1 (mt List.mem_cons.2 opening)
    obtain ⟨hclose, hclosing⟩ := not_or.1 (mt List.mem_cons.2 closing)
    rw [List.map_cons, List.cons_append, ended?, if_neg (Ne.symm hclose), if_neg (Ne.symm hopen),
      ih hopening hclosing]
    rfl

theorem pieces_append {before : List Char} (h : '\x7b' ∉ before) (rest : List Char) :
    pieces (before ++ rest) = before.map .char ++ pieces rest := by
  induction before with
  | nil => rfl
  | cons c before ih =>
    obtain ⟨hc, hbefore⟩ := not_or.1 (mt List.mem_cons.2 h)
    rw [List.cons_append, pieces_cons_of_ne (Ne.symm hc), ih hbefore]
    rfl

theorem fill_chars (values : OrderedMap String String) (cs : List Char) :
    (cs.map Piece.char).flatMap (Piece.fill values) = cs := by
  induction cs with
  | nil => rfl
  | cons c cs ih => exact congrArg (c :: ·) ih

theorem fill_pieces (cs : List Char) : (pieces cs).flatMap (Piece.fill []) = cs := by
  induction cs with
  | nil => rfl
  | cons c rest ih =>
    by_cases hc : c = '\x7b'
    · subst hc
      rw [pieces_open]
      cases hended : ended? (pieces rest) with
      | none =>
        rw [List.flatMap_cons, ih]
        rfl
      | some cut =>
        obtain ⟨name, after⟩ := cut
        rw [(eq_of_ended? hended).1, List.flatMap_append, fill_chars, List.flatMap_cons] at ih
        simp only [List.flatMap_cons, Piece.fill, OrderedMap.get?_nil, Option.getD_none,
          toList_placeholder, String.toList_ofList]
        rw [← ih]
        simp [Piece.fill]
    · rw [pieces_cons_of_ne hc, List.flatMap_cons, ih]
      rfl

theorem count_chars (name : String) (cs : List Char) :
    (cs.map Piece.char).count (.hole name) = 0 := by
  simp [List.count_eq_zero]

theorem occurrences_eq_count {name : String} (plain : Plain name) (cs : List Char) :
    occurrences ('\x7b' :: (name.toList ++ ['\x7d'])) cs = (pieces cs).count (.hole name) := by
  induction cs with
  | nil => rfl
  | cons c rest ih =>
    by_cases hc : c = '\x7b'
    · subst hc
      rw [pieces_open, occurrences, ih]
      cases hended : ended? (pieces rest) with
      | none =>
        have hnot : ¬ '\x7b' :: (name.toList ++ ['\x7d']) <+: '\x7b' :: rest := by
          intro hprefix
          obtain ⟨after, rfl⟩ := (List.cons_prefix_cons.1 hprefix).2
          rw [List.append_assoc, pieces_append plain.1, List.singleton_append,
            pieces_cons_of_ne (by decide), ended?_append plain.1 plain.2] at hended
          cases hended
        rw [if_neg hnot, Nat.zero_add, List.count_cons_of_ne (by simp)]
      | some cut =>
        obtain ⟨other, after⟩ := cut
        obtain ⟨hpieces, hother⟩ := eq_of_ended? hended
        have hrest := fill_pieces rest
        rw [hpieces, List.flatMap_append, fill_chars, List.flatMap_cons] at hrest
        have hplaced : '\x7b' :: (name.toList ++ ['\x7d']) <+: '\x7b' :: rest ↔
            String.ofList other = name := by
          rw [← hrest, List.cons_prefix_cons, and_iff_right rfl]
          rw [show Piece.fill [] (.char '\x7d') = ['\x7d'] from rfl, List.singleton_append,
            prefix_brace_iff plain.2 hother, ← String.toList_inj, String.toList_ofList, eq_comm]
        rw [hpieces, List.count_append, count_chars, List.count_cons_of_ne (by simp),
          List.count_cons]
        simp only [hplaced, beq_iff_eq, Piece.hole.injEq]
        omega
    · have hnot : ¬ '\x7b' :: (name.toList ++ ['\x7d']) <+: c :: rest :=
        fun hprefix => hc (List.cons_prefix_cons.1 hprefix).1.symm
      rw [Text.occurrences_cons_of_absent hnot, pieces_cons_of_ne hc,
        List.count_cons_of_ne (by simp), ih]

/-! ## One more variable -/

section Variable

variable {values : OrderedMap String String} {name : String}

/-- A piece with the values of the variables and a gap for one more name. -/
def Piece.gapped (values : OrderedMap String String) (name : String) :
    Piece → List (Option Char)
  | .char c => [some c]
  | .hole other =>
    if other = name then [none] else ((Piece.hole other).fill values).map some

def gapped (values : OrderedMap String String) (name template : String) : List (Option Char) :=
  (pieces template.toList).flatMap (Piece.gapped values name)

theorem fill_flatMap (value : List Char) (f : Piece → List (Option Char)) (ps : List Piece) :
    fill value (ps.flatMap f) = ps.flatMap fun p => fill value (f p) :=
  List.flatMap_assoc

theorem fill_gapped_placeholder (new : name ∉ OrderedMap.keys values) (template : String) :
    fill (placeholder name).toList (gapped values name template) =
      (substitute values template).toList := by
  rw [gapped, fill_flatMap, substitute, String.toList_ofList]
  refine List.flatMap_congr fun p _ => ?_
  cases p with
  | char c => rfl
  | hole other =>
    by_cases hname : other = name
    · subst hname
      have hnone := (OrderedMap.get?_eq_none_iff values other).2 new
      simp [Piece.gapped, Piece.fill, hnone, Text.fill]
    · rw [Piece.gapped, if_neg hname, Text.fill_map_some]

theorem fill_gapped_value (new : name ∉ OrderedMap.keys values) (value template : String) :
    fill value.toList (gapped values name template) =
      (substitute (values ++ [(name, value)]) template).toList := by
  rw [gapped, fill_flatMap, substitute, String.toList_ofList]
  refine List.flatMap_congr fun p _ => ?_
  cases p with
  | char c => rfl
  | hole other =>
    by_cases hname : other = name
    · subst hname
      have hnone := (OrderedMap.get?_eq_none_iff values other).2 new
      simp [Piece.gapped, Piece.fill, OrderedMap.get?_append, hnone, OrderedMap.get?_cons,
        Text.fill]
    · rw [Piece.gapped, if_neg hname, Text.fill_map_some]
      simp [Piece.fill, OrderedMap.get?_append, OrderedMap.get?_cons, Ne.symm hname]

theorem count_none_gapped (plain : Plain name) (values : OrderedMap String String)
    (template : String) : (gapped values name template).count none = mentions name template := by
  rw [mentions, toList_placeholder, occurrences_eq_count plain, gapped]
  induction pieces template.toList with
  | nil => rfl
  | cons p ps ih =>
    rw [List.flatMap_cons, List.count_append, ih, List.count_cons, Nat.add_comm]
    congr 1
    cases p with
    | char c => simp [Piece.gapped]
    | hole other =>
      by_cases hname : other = name
      · simp [Piece.gapped, hname]
      · simp [Piece.gapped, hname, List.count_eq_zero]

/-- How often the placeholder of a name stands where the template has none. -/
def formed (values : OrderedMap String String) (name template : String) : Nat :=
  occurrences ((placeholder name).toList.map some) (gapped values name template)

theorem mentions_substitute (plain : Plain name) (new : name ∉ OrderedMap.keys values)
    (template : String) :
    mentions name (substitute values template) =
      mentions name template + formed values name template := by
  have hfilled := Text.occurrences_fill_self (not_mem_tail plain) (gapped values name template)
  rw [← toList_placeholder, fill_gapped_placeholder new, count_none_gapped plain] at hfilled
  exact hfilled

/-- One more variable can be replaced in the text, if and only if no value forms its placeholder. -/
theorem replaceAll_substitute_iff (plain : Plain name) (new : name ∉ OrderedMap.keys values)
    (value template : String) :
    Text.replaceAll (substitute values template) (placeholder name) value =
        substitute (values ++ [(name, value)]) template ↔
      value = placeholder name ∨
        mentions name (substitute values template) = mentions name template := by
  have hiff := Text.replaceFrom_fill_iff (not_mem_tail plain) value.toList
    (gapped values name template)
  rw [← toList_placeholder, fill_gapped_placeholder new, fill_gapped_value new,
    String.toList_inj] at hiff
  rw [mentions_substitute plain new, Nat.add_eq_left, formed, ← hiff, Text.replaceAll,
    ← String.toList_inj, String.toList_ofList]

theorem mentions_le_of_append (plain : Plain name) {other : String} (plainToo : Plain other)
    (ne : name ≠ other) (new : other ∉ OrderedMap.keys values) (value template : String) :
    mentions name (substitute values template) ≤
      mentions name (substitute (values ++ [(other, value)]) template) := by
  have hother := Text.occurrences_fill_other (not_mem_tail plain) (not_mem_tail plainToo)
    (placeholder_apart plain plainToo ne) (gapped values other template)
  rw [← toList_placeholder, ← toList_placeholder, fill_gapped_placeholder new] at hother
  rw [mentions, hother, mentions, ← fill_gapped_value new]
  exact Text.occurrences_le_fill (by simp [toList_placeholder]) _ _

end Variable

/-! ## All variables -/

theorem substitute_congr {values values' : OrderedMap String String}
    (same : ∀ name, values.get? name = values'.get? name) (template : String) :
    substitute values template = substitute values' template := by
  have hfill : Piece.fill values = Piece.fill values' := by
    funext p
    cases p with
    | char c => rfl
    | hole name => rw [Piece.fill, Piece.fill, same]
  rw [substitute, substitute, hfill]

theorem substitute_perm {values values' : OrderedMap String String}
    (once : (OrderedMap.keys values).Nodup) (perm : values.Perm values') (template : String) :
    substitute values template = substitute values' template :=
  substitute_congr (OrderedMap.get?_perm perm once) template

theorem url_nil (s : Server) : { s with values := [] }.url = s.template := rfl

theorem url_append (s : Server) (values : OrderedMap String String) (p : String × String) :
    { s with values := values ++ [p] }.url =
      Text.replaceAll { s with values }.url (placeholder p.1) p.2 := by
  rw [url, url, List.foldl_append]
  rfl

theorem substitute_nil (template : String) : substitute [] template = template := by
  rw [substitute, fill_pieces, String.ofList_toList]

theorem mentions_le {name : String} (plain : Plain name)
    {values others : OrderedMap String String}
    (once : (OrderedMap.keys (values ++ others)).Nodup)
    (plains : ∀ p ∈ others, Plain p.1) (new : name ∉ OrderedMap.keys others) (template : String) :
    mentions name (substitute values template) ≤
      mentions name (substitute (values ++ others) template) := by
  induction others generalizing values with
  | nil => exact Nat.le_of_eq (by rw [List.append_nil])
  | cons p others ih =>
    obtain ⟨hp, hothers⟩ := List.forall_mem_cons.1 plains
    obtain ⟨hname, hnew⟩ := not_or.1 (mt List.mem_cons.2 new)
    have hfresh : p.1 ∉ OrderedMap.keys values := by
      intro hmem
      rw [OrderedMap.keys, List.map_append, List.nodup_append] at once
      exact once.2.2 p.1 hmem p.1 List.mem_cons_self rfl
    rw [List.append_cons] at once ⊢
    exact Nat.le_trans (mentions_le_of_append plain hp hname hfresh p.2 template)
      (ih once hothers hnew)

theorem mentions_le_of_subperm {name : String} (plain : Plain name)
    {values all : OrderedMap String String} (once : (OrderedMap.keys all).Nodup)
    (plains : ∀ p ∈ all, Plain p.1) (new : name ∉ OrderedMap.keys all) (sub : values.Subperm all)
    (template : String) :
    mentions name (substitute values template) ≤ mentions name (substitute all template) := by
  obtain ⟨chosen, hchosen, hsublist⟩ := sub
  obtain ⟨rest, hrest⟩ := hsublist.exists_perm_append
  have hall : all.Perm (values ++ rest) := hrest.trans (hchosen.append_right rest)
  have hsub : rest ⊆ all := fun p hp => hall.mem_iff.2 (List.mem_append_right values hp)
  rw [substitute_perm once hall]
  exact mentions_le plain ((hall.map Prod.fst).nodup_iff.1 once) (fun p hp => plains p (hsub hp))
    (fun hmem => new (List.map_subset Prod.fst hsub hmem)) template

/-- The variables but one. -/
def others (values : OrderedMap String String) (name : String) : OrderedMap String String :=
  values.filter (·.1 ≠ name)

theorem not_mem_keys_others (values : OrderedMap String String) (name : String) :
    name ∉ OrderedMap.keys (others values name) := by
  simp [others, OrderedMap.keys]

theorem perm_others {values : OrderedMap String String} (once : (OrderedMap.keys values).Nodup)
    {p : String × String} (mem : p ∈ values) : values.Perm (p :: others values p.1) := by
  obtain ⟨before, after, rfl⟩ := List.append_of_mem mem
  have hmiddle : (before ++ p :: after).Perm (p :: (before ++ after)) := List.perm_middle
  have honce := ((hmiddle.map Prod.fst).nodup_iff).1 once
  have hrest : ∀ q ∈ before ++ after, q.1 ≠ p.1 := fun q hq heq =>
    (List.nodup_cons.1 honce).1 (heq ▸ List.mem_map_of_mem hq)
  have hothers : others (before ++ p :: after) p.1 = before ++ after := by
    rw [others, List.filter_append, List.filter_cons_of_neg (by simp), ← List.filter_append,
      List.filter_eq_self]
    exact fun q hq => by simpa using hrest q hq
  rw [hothers]
  exact hmiddle

/-- Every choice of the variables, in every order, gives the template with the values of the chosen
ones in place of their placeholders, if and only if no variable has a placeholder in what the others
make of the template that the template has not, but for a variable that is its own placeholder. -/
theorem url_simultaneous_iff (s : Server) (once : (OrderedMap.keys s.values).Nodup)
    (plain : ∀ p ∈ s.values, Plain p.1) :
    ((∀ values : OrderedMap String String, values.Subperm s.values →
        { s with values }.url = substitute values s.template) ↔
      ∀ p ∈ s.values, p.2 = placeholder p.1 ∨
        mentions p.1 (substitute (others s.values p.1) s.template) = mentions p.1 s.template) ∧
      ∀ values : OrderedMap String String, values.Perm s.values →
        substitute values s.template = substitute s.values s.template := by
  have hperm : ∀ {p}, p ∈ s.values → s.values.Perm (p :: others s.values p.1) :=
    fun hp => perm_others once hp
  refine ⟨⟨fun h p hp => ?_, fun h values hsub => ?_⟩, fun values perm => ?_⟩
  · have hlast : (others s.values p.1 ++ [p]).Perm s.values :=
      List.perm_append_singleton p _ |>.trans (hperm hp).symm
    have hall := h _ hlast.subperm
    rw [url_append, h _ ((List.sublist_append_left _ _).subperm.trans hlast.subperm)] at hall
    exact (replaceAll_substitute_iff (plain p hp) (not_mem_keys_others _ _) p.2 s.template).1 hall
  · induction values using List.reverseRecOn with
    | nil => rw [url_nil, substitute_nil]
    | append_singleton values p ih =>
      have hp : p ∈ s.values := hsub.subset List.mem_concat_self
      have hshort : values.Subperm (others s.values p.1) := by
        rw [← List.subperm_cons p]
        exact (List.perm_append_singleton p values).symm.subperm.trans
          (hsub.trans (hperm hp).subperm)
      have hone := ((hperm hp).map Prod.fst).nodup_iff.1 once
      have hle := mentions_le_of_subperm (plain p hp) (List.nodup_cons.1 hone).2
        (fun q hq => plain q (List.mem_of_mem_filter hq)) (not_mem_keys_others _ _) hshort
        s.template
      have hnew : p.1 ∉ OrderedMap.keys values := fun hmem =>
        not_mem_keys_others s.values p.1 (List.map_subset Prod.fst hshort.subset hmem)
      have hmentions := mentions_substitute (plain p hp) hnew s.template
      rw [url_append, ih ((List.sublist_append_left _ _).subperm.trans hsub),
        replaceAll_substitute_iff (plain p hp) hnew]
      refine (h p hp).imp_right fun hsame => ?_
      omega
  · exact substitute_perm ((perm.map Prod.fst).nodup_iff.2 once) perm s.template

/-- A server in a region. One value has braces, which belong to no variable. -/
def regional : Server where
  template := "https://\x7bregion\x7d.example.com:\x7bport\x7d/\x7b\x7bbase\x7d\x7d/\x7btenant\x7d"
  values := [("port", "8443"), ("base", "v\x7bmajor\x7d"), ("region", "eu")]

theorem url_simultaneous_iff_regional :
    (OrderedMap.keys regional.values).Nodup ∧ (∀ p ∈ regional.values, Plain p.1) ∧
      (∀ values : OrderedMap String String, values.Subperm regional.values →
        { regional with values }.url = substitute values regional.template) ∧
      regional.url = "https://eu.example.com:8443/\x7bv\x7bmajor\x7d\x7d/\x7btenant\x7d" := by
  have honce : (OrderedMap.keys regional.values).Nodup := by decide
  have hplain : ∀ p ∈ regional.values, Plain p.1 := by decide
  exact ⟨honce, hplain, (url_simultaneous_iff regional honce hplain).1.2 (by decide), by decide⟩

/-- A server whose host is given by another variable. -/
def chained : Server where
  template := "https://\x7bhost\x7d/v1"
  values := [("host", "\x7bregion\x7d.example.com"), ("region", "eu")]

/-- The value of one variable is filled with that of another that comes after it, and not with that
of one that came before it. -/
theorem value_filled_again :
    (OrderedMap.keys chained.values).Nodup ∧ (∀ p ∈ chained.values, Plain p.1) ∧
      substitute chained.values chained.template = "https://\x7bregion\x7d.example.com/v1" ∧
      chained.url = "https://eu.example.com/v1" ∧
      { chained with values := chained.values.reverse }.url =
        "https://\x7bregion\x7d.example.com/v1" := by
  decide

end OpenApi.Server
