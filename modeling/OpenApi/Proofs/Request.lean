import OpenApi.Proofs.Invocation.Segments

/-!
# Requests read back

A query is read by cutting it at its marks and decoding the parts. Nothing that is written of a name
or a value holds a mark, so every list of pairs comes back. A cookie is written as it is, and it
comes back if its value holds no semicolon with a space behind it.
-/

namespace OpenApi.Request

open Invocation (cutAtChar? cutAtChar?_of_not_mem cutAtChar?_eq_none_iff)
open Text (percentEncode percentDecode IsPercentText)

theorem mapM_map_eq_some {α β : Type} {write : α → β} {read : β → Option α} {l : List α}
    (h : ∀ a ∈ l, read (write a) = some a) : (l.map write).mapM read = some l := by
  induction l with
  | nil => rfl
  | cons a rest ih =>
    obtain ⟨ha, hrest⟩ := List.forall_mem_cons.1 h
    rw [List.map_cons, List.mapM_cons, ha, ih hrest]
    rfl

theorem eq_map_of_mapM {α β : Type} {write : α → β} {read : β → Option α}
    (h : ∀ b a, read b = some a → b = write a) {l : List β} {as : List α}
    (hread : l.mapM read = some as) : l = as.map write := by
  induction l generalizing as with
  | nil =>
    cases hread
    rfl
  | cons b rest ih =>
    rw [List.mapM_cons] at hread
    obtain ⟨a, ha, hread⟩ := Option.bind_eq_some_iff.1 hread
    obtain ⟨as', has, hread⟩ := Option.bind_eq_some_iff.1 hread
    cases hread
    rw [List.map_cons, h b a ha, ih has]

/-! ## Queries -/

/-- The name before the first equals sign of a part and the value after it. -/
def readPair (part : List Char) : Option (String × String) :=
  match cutAtChar? '=' part with
  | none => none
  | some (name, value) => do
    return (← percentDecode (String.ofList name), ← percentDecode (String.ofList value))

/-- The pairs between the ampersands. -/
def readQuery (query : List Char) : Option (List (String × String)) :=
  (query.splitOn '&').mapM readPair

def pairText (pair : String × String) : List Char :=
  (percentEncode pair.1).toList ++ '=' :: (percentEncode pair.2).toList

theorem toList_renderQuery (query : List (String × String)) :
    (renderQuery query).toList = ['&'].intercalate (query.map pairText) := by
  have hpair : ∀ pair : String × String,
      (percentEncode pair.1 ++ "=" ++ percentEncode pair.2).toList = pairText pair := by
    intro pair
    simp [pairText]
  have hmark : "&".toList = ['&'] := rfl
  rw [renderQuery, String.toList_intercalate, List.map_map, hmark]
  exact congrArg ['&'].intercalate (List.map_congr_left fun pair _ => hpair pair)

theorem not_mem_percentEncode {c : Char} (marks : ¬IsPercentText c) (s : String) :
    c ∉ (percentEncode s).toList :=
  fun hmem => marks (Text.isPercentText_percentEncode s c hmem)

theorem not_mem_pairText (pair : String × String) : '&' ∉ pairText pair := by
  have hname := not_mem_percentEncode (c := '&') (by decide) pair.1
  have hvalue := not_mem_percentEncode (c := '&') (by decide) pair.2
  simp [pairText, hname, hvalue]

theorem readPair_pairText (pair : String × String) : readPair (pairText pair) = some pair := by
  have hname := not_mem_percentEncode (c := '=') (by decide) pair.1
  rw [readPair, pairText, cutAtChar?_of_not_mem hname]
  dsimp only
  rw [String.ofList_toList, String.ofList_toList, Text.percentDecode_percentEncode,
    Text.percentDecode_percentEncode]
  rfl

theorem readQuery_renderQuery {query : List (String × String)} (ne : query ≠ []) :
    readQuery (renderQuery query).toList = some query := by
  have hapart : ∀ part ∈ query.map pairText, '&' ∉ part := by
    intro part hpart
    obtain ⟨pair, _, rfl⟩ := List.mem_map.1 hpart
    exact not_mem_pairText pair
  have hparts : (renderQuery query).toList.splitOn '&' = query.map pairText := by
    rw [toList_renderQuery, List.splitOn_intercalate '&' hapart (by simpa using ne)]
  rw [readQuery, hparts]
  exact mapM_map_eq_some fun pair _ => readPair_pairText pair

theorem fullUrl_of_nil {r : Request} (h : r.query = []) : r.fullUrl = r.url := by
  simp [fullUrl, h]

theorem cutAtChar?_fullUrl {r : Request} (plain : '?' ∉ r.url.toList) (ne : r.query ≠ []) :
    cutAtChar? '?' r.fullUrl.toList = some (r.url.toList, (renderQuery r.query).toList) := by
  have htext : r.fullUrl.toList = r.url.toList ++ '?' :: (renderQuery r.query).toList := by
    simp [fullUrl, ne]
  rw [htext, cutAtChar?_of_not_mem plain]

theorem eq_of_fullUrl {r r' : Request} (plain : '?' ∉ r.url.toList) (plain' : '?' ∉ r'.url.toList)
    (h : r'.fullUrl = r.fullUrl) : r'.url = r.url ∧ r'.query = r.query := by
  have hcut := congrArg (fun url : String => cutAtChar? '?' url.toList) h
  by_cases hnil : r.query = [] <;> by_cases hnil' : r'.query = []
  · rw [fullUrl_of_nil hnil, fullUrl_of_nil hnil'] at h
    exact ⟨h, by rw [hnil, hnil']⟩
  · simp only [fullUrl_of_nil hnil, cutAtChar?_fullUrl plain' hnil',
      cutAtChar?_eq_none_iff.2 plain] at hcut
    cases hcut
  · simp only [fullUrl_of_nil hnil', cutAtChar?_fullUrl plain hnil,
      cutAtChar?_eq_none_iff.2 plain'] at hcut
    cases hcut
  · simp only [cutAtChar?_fullUrl plain hnil, cutAtChar?_fullUrl plain' hnil', Option.some.injEq,
      Prod.mk.injEq, String.toList_inj] at hcut
    have hread := readQuery_renderQuery hnil'
    rw [hcut.2, readQuery_renderQuery hnil] at hread
    exact ⟨hcut.1, (Option.some.inj hread).symm⟩

/-- An address with a query is cut at its first question mark into the address without it and the
query, of which all the pairs are read in their order. So two requests have the same address only if
they have the same pairs. -/
theorem fullUrl_recoverable (r : Request) (plain : '?' ∉ r.url.toList) :
    (r.query = [] → r.fullUrl = r.url) ∧
      (r.query ≠ [] → ∃ query, cutAtChar? '?' r.fullUrl.toList = some (r.url.toList, query) ∧
        readQuery query = some r.query) ∧
      ∀ r' : Request, '?' ∉ r'.url.toList →
        (r'.fullUrl = r.fullUrl ↔ r'.url = r.url ∧ r'.query = r.query) := by
  refine ⟨fullUrl_of_nil, ?_, ?_⟩
  · intro ne
    exact ⟨_, cutAtChar?_fullUrl plain ne, readQuery_renderQuery ne⟩
  · intro r' plain'
    constructor
    · exact eq_of_fullUrl plain plain'
    · rintro ⟨hurl, hquery⟩
      rw [fullUrl, fullUrl, hurl, hquery]

/-- A search with a name twice, an empty name, an empty value and the marks of a query. -/
def hardSearch : Request where
  method := .get
  url := "https://api.test/a=b&c"
  query := [("tag", "a&b=c"), ("tag", ""), ("", "?é%26"), ("", "")]

/-- The same address without a query. -/
def plainSearch : Request :=
  { hardSearch with query := [] }

theorem fullUrl_recoverable_hardSearch :
    '?' ∉ hardSearch.url.toList ∧ '?' ∉ plainSearch.url.toList ∧ hardSearch.query ≠ [] ∧
      plainSearch.fullUrl = plainSearch.url ∧
      (∃ query, cutAtChar? '?' hardSearch.fullUrl.toList = some (hardSearch.url.toList, query) ∧
        readQuery query = some hardSearch.query) ∧
      plainSearch.fullUrl ≠ hardSearch.fullUrl := by
  have plain : '?' ∉ hardSearch.url.toList := by decide +kernel
  have plain' : '?' ∉ plainSearch.url.toList := plain
  have ne : hardSearch.query ≠ [] := by decide
  obtain ⟨_, hread, hsame⟩ := fullUrl_recoverable hardSearch plain
  refine ⟨plain, plain', ne, (fullUrl_recoverable plainSearch plain').1 rfl, hread ne, ?_⟩
  intro h
  exact absurd ((hsame plainSearch plain').1 h).2 (by decide)

/-! ## Cookies -/

/-- Cuts a text at every semicolon with a space behind it. -/
def cookieParts : List Char → List (List Char)
  | ';' :: ' ' :: rest => [] :: cookieParts rest
  | c :: rest => (cookieParts rest).modifyHead (c :: ·)
  | [] => [[]]

-- Made here once, as the proofs below would all wait for it.
attribute [elab_as_elim] cookieParts.induct_unfolding

/-- The name before the first equals sign of a part and the value after it. -/
def readCookie (part : List Char) : Option (String × String) :=
  (cutAtChar? '=' part).map fun cut => (String.ofList cut.1, String.ofList cut.2)

def readCookies (header : String) : Option (List (String × String)) :=
  (cookieParts header.toList).mapM readCookie

def cookieText (cookie : String × String) : List Char :=
  cookie.1.toList ++ '=' :: cookie.2.toList

/-- The mark between two cookies. -/
def cookieMark : List Char :=
  [';', ' ']

variable {text before after : List Char}

theorem exists_cookieParts (text : List Char) :
    ∃ first others, cookieParts text = first :: others := by
  apply List.exists_cons_of_ne_nil
  fun_induction cookieParts text with
  | case1 rest ih => simp
  | case2 c rest _ ih => simpa using ih
  | case3 => simp

theorem cookieParts_cons_of_ne {c : Char} (h : c ≠ ';') (text : List Char) :
    cookieParts (c :: text) = (cookieParts text).modifyHead (c :: ·) := by
  rw [cookieParts]
  exact fun _ hc _ => h hc

theorem cookieParts_append (before after : List Char) :
    cookieParts (before ++ cookieMark ++ after) = cookieParts before ++ cookieParts after := by
  fun_induction cookieParts before with
  | case1 rest ih => simpa [cookieParts] using ih
  | case2 c rest unmarked ih =>
    have hcons : cookieParts (c :: (rest ++ cookieMark ++ after)) =
        (cookieParts (rest ++ cookieMark ++ after)).modifyHead (c :: ·) := by
      rw [cookieParts]
      intro rest' hc hrest
      cases rest with
      | nil => simp [cookieMark] at hrest
      | cons d rest => exact unmarked rest hc (by simp_all)
    obtain ⟨first, others, hparts⟩ := exists_cookieParts rest
    rw [List.cons_append, List.cons_append, hcons, ih, hparts]
    rfl
  | case3 => rfl

theorem isPrefix_of_cookieParts {first : List Char} {others : List (List Char)}
    (h : cookieParts text = first :: others) : first <+: text := by
  fun_induction cookieParts text generalizing first others with
  | case1 rest ih =>
    cases h
    exact List.nil_prefix
  | case2 c rest unmarked ih =>
    obtain ⟨first', others', hparts⟩ := exists_cookieParts rest
    rw [hparts] at h
    cases h
    exact (List.prefix_cons_inj c).2 (ih hparts)
  | case3 =>
    cases h
    exact List.nil_prefix

theorem not_infix_of_mem_cookieParts {part : List Char} (h : part ∈ cookieParts text) :
    ¬cookieMark <:+: part := by
  fun_induction cookieParts text generalizing part with
  | case1 rest ih =>
    rcases List.mem_cons.1 h with rfl | h
    · simp [cookieMark]
    · exact ih h
  | case2 c rest unmarked ih =>
    obtain ⟨first, others, hparts⟩ := exists_cookieParts rest
    rw [hparts, List.modifyHead_cons] at h
    rw [hparts] at ih
    rcases List.mem_cons.1 h with rfl | h
    · rw [List.infix_cons_iff, not_or]
      refine ⟨?_, ih List.mem_cons_self⟩
      -- The mark would begin with `c` and go on in `rest`, of which `first` is the beginning.
      intro hmark
      obtain ⟨hc, hfirst⟩ := List.cons_prefix_cons.1 hmark
      obtain ⟨after, hrest⟩ := hfirst.trans (isPrefix_of_cookieParts hparts)
      exact unmarked after hc.symm hrest.symm
    · exact ih (List.mem_cons_of_mem _ h)
  | case3 =>
    rw [List.mem_singleton.1 h]
    simp [cookieMark]

theorem cookieParts_eq_singleton_iff : cookieParts text = [text] ↔ ¬cookieMark <:+: text := by
  constructor
  · intro h
    exact not_infix_of_mem_cookieParts (h ▸ List.mem_singleton_self text)
  · intro h
    fun_induction cookieParts text with
    | case1 rest ih => exact absurd ⟨[], rest, rfl⟩ h
    | case2 c rest unmarked ih =>
      have hrest : ¬cookieMark <:+: rest := fun hrest => h (List.infix_cons hrest)
      rw [ih hrest]
      rfl
    | case3 => rfl

theorem cookieParts_of_not_mem (h : ';' ∉ before) (text : List Char) :
    cookieParts (before ++ text) = (cookieParts text).modifyHead (before ++ ·) := by
  induction before with
  | nil =>
    obtain ⟨first, others, hparts⟩ := exists_cookieParts text
    rw [List.nil_append, hparts]
    rfl
  | cons c rest ih =>
    obtain ⟨hc, hrest⟩ := not_or.1 (mt List.mem_cons.2 h)
    obtain ⟨first, others, hparts⟩ := exists_cookieParts text
    rw [List.cons_append, cookieParts_cons_of_ne (Ne.symm hc), ih hrest, hparts]
    rfl

theorem cookieParts_intercalate {texts : List (List Char)} (ne : texts ≠ []) :
    cookieParts (cookieMark.intercalate texts) = texts.flatMap cookieParts := by
  induction texts with
  | nil => exact absurd rfl ne
  | cons text rest ih =>
    cases rest with
    | nil => simp
    | cons next rest =>
      rw [List.intercalate_cons_cons, cookieParts_append, ih (by simp)]
      rfl

variable {cookie : String × String}

theorem cookieParts_cookieText (h : ';' ∉ cookie.1.toList) :
    cookieParts (cookieText cookie) =
      (cookieParts cookie.2.toList).modifyHead (cookie.1.toList ++ '=' :: ·) := by
  have hname : ';' ∉ cookie.1.toList ++ ['='] := by simp [h]
  have hparts := cookieParts_of_not_mem hname cookie.2.toList
  simpa [cookieText] using hparts

theorem cookieParts_cookieText_eq_singleton_iff (h : ';' ∉ cookie.1.toList) :
    cookieParts (cookieText cookie) = [cookieText cookie] ↔ ¬cookieMark <:+: cookie.2.toList := by
  obtain ⟨first, others, hparts⟩ := exists_cookieParts cookie.2.toList
  rw [← cookieParts_eq_singleton_iff, cookieParts_cookieText h, hparts]
  simp [cookieText]

theorem readCookie_cookieText (h : '=' ∉ cookie.1.toList) :
    readCookie (cookieText cookie) = some cookie := by
  simp [readCookie, cookieText, cutAtChar?_of_not_mem h]

theorem eq_cookieText_of_readCookie {part : List Char} (h : readCookie part = some cookie) :
    part = cookieText cookie := by
  obtain ⟨⟨name, value⟩, hcut, rfl⟩ := Option.map_eq_some_iff.1 h
  simpa [cookieText] using (Invocation.eq_of_cutAtChar? hcut).1

theorem toList_cookieHeader (cookies : List (String × String)) :
    (String.intercalate "; " (cookies.map fun (name, value) => name ++ "=" ++ value)).toList =
      cookieMark.intercalate (cookies.map cookieText) := by
  have hcookie : ∀ cookie : String × String,
      (cookie.1 ++ "=" ++ cookie.2).toList = cookieText cookie := by
    intro cookie
    simp [cookieText]
  rw [String.toList_intercalate, List.map_map]
  congr 1
  exact List.map_congr_left fun cookie _ => hcookie cookie

theorem cookieHeader?_of_ne_nil {r : Request} (ne : r.cookies ≠ []) :
    ∃ header, r.cookieHeader? = some header ∧
      header.toList = cookieMark.intercalate (r.cookies.map cookieText) := by
  refine ⟨_, ?_, toList_cookieHeader r.cookies⟩
  simp [cookieHeader?, ne]

/-- The mark in the value of a cookie begins another cookie, in the place behind that value. So the
cookies are read from their header exactly if none of their values holds the mark. -/
theorem cookieHeader_recoverable_iff (r : Request) (ne : r.cookies ≠ [])
    (names : ∀ cookie ∈ r.cookies, '=' ∉ cookie.1.toList ∧ ';' ∉ cookie.1.toList) :
    ∃ header, r.cookieHeader? = some header ∧
      cookieParts header.toList = r.cookies.flatMap (fun cookie =>
        (cookieParts cookie.2.toList).modifyHead (cookie.1.toList ++ '=' :: ·)) ∧
      (readCookies header = some r.cookies ↔
        ∀ cookie ∈ r.cookies, ¬cookieMark <:+: cookie.2.toList) := by
  obtain ⟨header, hheader, htext⟩ := cookieHeader?_of_ne_nil ne
  have hparts : cookieParts header.toList =
      r.cookies.flatMap fun cookie => cookieParts (cookieText cookie) := by
    rw [htext, cookieParts_intercalate (by simpa using ne), List.flatMap_map]
  refine ⟨header, hheader, ?_, ?_, ?_⟩
  · rw [hparts]
    exact List.flatMap_congr fun cookie hcookie =>
      cookieParts_cookieText (names cookie hcookie).2
  · intro hread cookie hcookie hmark
    have hwritten := eq_map_of_mapM (fun _ _ => eq_cookieText_of_readCookie) hread
    have hmem : cookieText cookie ∈ cookieParts header.toList :=
      hwritten ▸ List.mem_map_of_mem hcookie
    have hvalue : cookie.2.toList <:+: cookieText cookie :=
      ⟨cookie.1.toList ++ ['='], [], by simp [cookieText]⟩
    exact not_infix_of_mem_cookieParts hmem (hmark.trans hvalue)
  · intro hfree
    have hwritten : cookieParts header.toList = r.cookies.map cookieText := by
      rw [hparts, List.map_eq_flatMap]
      exact List.flatMap_congr fun cookie hcookie =>
        (cookieParts_cookieText_eq_singleton_iff (names cookie hcookie).2).2 (hfree cookie hcookie)
    rw [readCookies, hwritten]
    exact mapM_map_eq_some fun cookie hcookie => readCookie_cookieText (names cookie hcookie).1

/-- Cookies with the characters of the mark in their values, but never the mark. -/
def oddCookies : Request where
  method := .get
  url := "/"
  cookies := [("session", "a;b=c d;"), ("theme", ""), ("session", " =;")]

theorem cookieHeader_recoverable_iff_oddCookies :
    oddCookies.cookies ≠ [] ∧
      (∀ cookie ∈ oddCookies.cookies, '=' ∉ cookie.1.toList ∧ ';' ∉ cookie.1.toList) ∧
      oddCookies.cookieHeader? = some "session=a;b=c d;; theme=; session= =;" ∧
      readCookies "session=a;b=c d;; theme=; session= =;" = some oddCookies.cookies := by
  have ne : oddCookies.cookies ≠ [] := by decide
  have names : ∀ cookie ∈ oddCookies.cookies,
      '=' ∉ cookie.1.toList ∧ ';' ∉ cookie.1.toList := by decide +kernel
  have free : ∀ cookie ∈ oddCookies.cookies, ¬cookieMark <:+: cookie.2.toList := by
    decide +kernel
  have header : oddCookies.cookieHeader? = some "session=a;b=c d;; theme=; session= =;" := by
    decide +kernel
  obtain ⟨_, hheader, _, hread⟩ := cookieHeader_recoverable_iff oddCookies ne names
  obtain rfl := Option.some.inj (header.symm.trans hheader)
  exact ⟨ne, names, header, hread.2 free⟩

/-- A request with one cookie, the name of another in its value. -/
def intruded : Request where
  method := .get
  url := "/"
  cookies := [("session", "abc; admin=1")]

theorem intruder_read_as_cookie :
    (∀ cookie ∈ intruded.cookies,
        cookie.1 ≠ "" ∧ '=' ∉ cookie.1.toList ∧ ';' ∉ cookie.1.toList) ∧
      intruded.cookieHeader? = some "session=abc; admin=1" ∧
      readCookies "session=abc; admin=1" = some [("session", "abc"), ("admin", "1")] := by
  decide +kernel

end OpenApi.Request
