import OpenApi.Proofs.Invocation.Collected

/-!
# Placeholders of a path

A path is filled when each of its placeholders has a value.
-/

namespace OpenApi.Invocation

/-! ## Cutting at a mark -/

theorem cutAtChar?_eq_none_iff {mark : Char} {cs : List Char} :
    cutAtChar? mark cs = none ↔ mark ∉ cs := by
  induction cs with
  | nil => simp [cutAtChar?]
  | cons c rest ih =>
    by_cases h : c = mark
    · simp [cutAtChar?, h]
    · simp [cutAtChar?, h, ih, Ne.symm h]

theorem eq_of_cutAtChar? {mark : Char} {cs before after : List Char}
    (h : cutAtChar? mark cs = some (before, after)) :
    cs = before ++ mark :: after ∧ mark ∉ before := by
  induction cs generalizing before with
  | nil => cases h
  | cons c rest ih =>
    unfold cutAtChar? at h
    by_cases hc : c = mark
    · rw [if_pos hc] at h
      cases h
      exact ⟨by rw [hc]; rfl, List.not_mem_nil⟩
    · rw [if_neg hc] at h
      obtain ⟨⟨before', after'⟩, hrest, he⟩ := Option.map_eq_some_iff.1 h
      cases he
      obtain ⟨rfl, hbefore⟩ := ih hrest
      exact ⟨rfl, by simp [hbefore, Ne.symm hc]⟩

/-! ## Names in braces -/

/-- The names in braces. Inside a brace, `name` is what has been read of the name, in reverse; a
brace that is not closed holds none. -/
def namesFrom : Option (List Char) → List Char → List String
  | _, [] => []
  | none, c :: rest => if c = '\x7b' then namesFrom (some []) rest else namesFrom none rest
  | some name, c :: rest =>
    if c = '\x7d' then String.ofList name.reverse :: namesFrom none rest
    else namesFrom (some (c :: name)) rest

/-- The placeholders of a path, from the left. -/
def placeholders (path : String) : List String :=
  namesFrom none path.toList

theorem namesFrom_of_no_opening {cs : List Char} (h : '\x7b' ∉ cs) : namesFrom none cs = [] := by
  induction cs with
  | nil => rfl
  | cons c rest ih =>
    obtain ⟨hc, hrest⟩ := not_or.1 (mt List.mem_cons.2 h)
    rw [namesFrom, if_neg (Ne.symm hc)]
    exact ih hrest

theorem namesFrom_opening {before : List Char} (h : '\x7b' ∉ before) (inside : List Char) :
    namesFrom none (before ++ '\x7b' :: inside) = namesFrom (some []) inside := by
  induction before with
  | nil => simp [namesFrom]
  | cons c rest ih =>
    obtain ⟨hc, hrest⟩ := not_or.1 (mt List.mem_cons.2 h)
    rw [List.cons_append, namesFrom, if_neg (Ne.symm hc)]
    exact ih hrest

theorem namesFrom_of_no_closing {cs : List Char} (h : '\x7d' ∉ cs) (name : List Char) :
    namesFrom (some name) cs = [] := by
  induction cs generalizing name with
  | nil => rfl
  | cons c rest ih =>
    obtain ⟨hc, hrest⟩ := not_or.1 (mt List.mem_cons.2 h)
    rw [namesFrom, if_neg (Ne.symm hc)]
    exact ih hrest _

theorem namesFrom_closing {cs : List Char} (h : '\x7d' ∉ cs) (name after : List Char) :
    namesFrom (some name) (cs ++ '\x7d' :: after) =
      String.ofList (name.reverse ++ cs) :: namesFrom none after := by
  induction cs generalizing name with
  | nil => simp [namesFrom]
  | cons c rest ih =>
    obtain ⟨hc, hrest⟩ := not_or.1 (mt List.mem_cons.2 h)
    rw [List.cons_append, namesFrom, if_neg (Ne.symm hc), ih hrest]
    simp

/-! ## Filling -/

/-- There is no value for the placeholder. -/
def PlaceholderFault (template : String) (values : OrderedMap String String) (name : String)
    (e : InvokeError) : Prop :=
  name ∉ OrderedMap.keys values ∧ e = .unresolvedPlaceholder template name

theorem fillPlaceholders_eq_error_iff {template : String} {values : OrderedMap String String}
    {fuel : Nat} {text : List Char} (enough : text.length ≤ fuel) {e : InvokeError} :
    fillPlaceholders template values fuel text = .error e ↔
      FirstFault (PlaceholderFault template values) (namesFrom none text) e := by
  induction fuel generalizing text with
  | zero =>
    have hnil : text = [] := List.eq_nil_of_length_eq_zero (Nat.le_zero.1 enough)
    simp [hnil, fillPlaceholders, namesFrom, firstFault_nil]
  | succ fuel ih =>
    unfold fillPlaceholders
    cases hopening : cutAtChar? '\x7b' text with
    | none =>
      rw [namesFrom_of_no_opening (cutAtChar?_eq_none_iff.1 hopening)]
      simp [firstFault_nil]
    | some cut =>
      obtain ⟨before, inside⟩ := cut
      obtain ⟨rfl, hbefore⟩ := eq_of_cutAtChar? hopening
      rw [namesFrom_opening hbefore]
      cases hclosing : cutAtChar? '\x7d' inside with
      | none =>
        rw [namesFrom_of_no_closing (cutAtChar?_eq_none_iff.1 hclosing)]
        simp [hclosing, firstFault_nil]
      | some cut =>
        obtain ⟨name, after⟩ := cut
        obtain ⟨rfl, hname⟩ := eq_of_cutAtChar? hclosing
        have hafter : after.length ≤ fuel := by
          simp only [List.length_append, List.length_cons] at enough
          omega
        rw [namesFrom_closing hname, firstFault_cons, ← ih hafter]
        simp only [hclosing, List.reverse_nil, List.nil_append, PlaceholderFault]
        cases hvalue : values.get? (String.ofList name) with
        | none =>
          have habsent := (OrderedMap.get?_eq_none_iff _ _).1 hvalue
          simp [habsent, eq_comm]
        | some value =>
          have hpresent : String.ofList name ∈ OrderedMap.keys values :=
            (OrderedMap.isSome_get?_iff _ _).1 (by rw [hvalue]; rfl)
          cases hrest : fillPlaceholders template values fuel after <;>
            simp [hpresent, bind, Except.bind, pure, Except.pure]

theorem fillPath_eq_error_iff {template : String} {values : OrderedMap String String}
    {e : InvokeError} :
    fillPath template values = .error e ↔
      FirstFault (PlaceholderFault template values) (placeholders template) e := by
  have enough : template.toList.length ≤ template.length := Nat.le_of_eq String.length_toList
  rw [placeholders, ← fillPlaceholders_eq_error_iff enough, fillPath]
  cases fillPlaceholders template values template.length template.toList <;>
    simp [bind, Except.bind, pure, Except.pure]

end OpenApi.Invocation
