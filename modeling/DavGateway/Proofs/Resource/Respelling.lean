/-
# Other spellings of a request URI

A request path may repeat a slash, name the directory that it is in, or enter a
directory and leave it again, at any place in it, and a query or a fragment may
stand behind it.  Neither a target nor an error shows any of this: they depend on
the names that are left, and on whether the path ends in a directory.

* `Path.LeadsBack` : a detour, which resolution takes back.
* `Path.normalize_detour` : a normal form does not show a detour.
* `Mount.resolve_respelled` : the spellings of a URI.
-/
import DavGateway.Proofs.Resource.Grammar
import Mathlib.Data.List.TakeWhile

open DavGateway.Path

namespace DavGateway

/-! ## Detours in a path -/

namespace Path

/-- Whether the segments of a path, taken after others, leave what these have kept. -/
def LeadsBack (path : List Char) : Prop :=
  ∀ kept, (segments path).foldl resolveStep kept = kept

theorem leadsBack_nil : LeadsBack [] := fun _ => rfl

theorem leadsBack_dot : LeadsBack ['.'] := fun _ => rfl

/-- A directory may be left as soon as it is entered. -/
theorem leadsBack_dotDot {name : List Char} (hname : IsName name) :
    LeadsBack (name ++ '/' :: ['.', '.']) := by
  intro kept
  have hup : segments ['.', '.'] = [['.', '.']] := rfl
  rw [segments_append_slash, segments_of_not_mem hname.2.2.2, hup, List.singleton_append,
    List.foldl_cons, resolveStep_name hname, List.foldl_cons, List.foldl_nil, resolveStep_dotDot,
    List.tail_cons]

/-- The segments behind a slash are resolved after those before it. -/
theorem resolve_append_slash (path more : List Char) :
    resolve (path ++ '/' :: more) =
      ((segments more).foldl resolveStep ((segments path).foldl resolveStep [])).reverse := by
  rw [resolve, segments_append_slash, List.foldl_append]

/-- Whether a path ends in a directory is seen behind any slash in it. -/
theorem isDirectoryForm_append_slash (path more : List Char) :
    isDirectoryForm (path ++ '/' :: more) = isDirectoryForm more := by
  rw [isDirectoryForm, isDirectoryForm, segments_append_slash, List.getLast?_append,
    List.getLast?_eq_some_getLast (segments_ne_nil more), Option.some_or]

/-- A normal form does not show a detour. -/
theorem normalize_detour {detour : List Char} (h : LeadsBack detour) (path more : List Char) :
    normalize (path ++ '/' :: (detour ++ '/' :: more)) = normalize (path ++ '/' :: more) := by
  have hresolve : resolve (path ++ '/' :: (detour ++ '/' :: more)) =
      resolve (path ++ '/' :: more) := by
    rw [resolve_append_slash, resolve_append_slash, segments_append_slash, List.foldl_append, h]
  rw [normalize_eq, normalize_eq, hresolve, isDirectoryForm_append_slash,
    isDirectoryForm_append_slash, isDirectoryForm_append_slash]

end Path

/-! ## What stands before the query -/

/-- The path of a URI ends at the first mark of a query or a fragment. -/
theorem beforeQuery_eq (uri : List Char) :
    beforeQuery uri = uri.takeWhile fun c => c ≠ '?' ∧ c ≠ '#' := by
  rw [beforeQuery, List.takeWhile_takeWhile]
  simp only [decide_eq_true_eq]

/-- Text without these marks belongs to the path. -/
theorem beforeQuery_append_of_not_mem {front : List Char} (hquery : '?' ∉ front)
    (hfragment : '#' ∉ front) (rest : List Char) :
    beforeQuery (front ++ rest) = front ++ beforeQuery rest := by
  rw [beforeQuery_eq, beforeQuery_eq, List.takeWhile_append_of_pos]
  intro c hc
  have hne : c ≠ '?' ∧ c ≠ '#' := ⟨fun h => hquery (h ▸ hc), fun h => hfragment (h ▸ hc)⟩
  simpa using hne

/-- Nothing behind such a mark belongs to it. -/
theorem beforeQuery_append_of_mem {front : List Char} (h : '?' ∈ front ∨ '#' ∈ front)
    (rest : List Char) : beforeQuery (front ++ rest) = beforeQuery front := by
  rw [beforeQuery_eq, beforeQuery_eq, List.takeWhile_append, if_neg]
  intro hlength
  have hall : front.takeWhile (fun c => c ≠ '?' ∧ c ≠ '#') = front :=
    (List.takeWhile_prefix _).eq_of_length hlength
  rw [List.takeWhile_eq_self_iff] at hall
  rcases h with hmem | hmem
  · simpa using hall '?' hmem
  · simpa using hall '#' hmem

/-- The mark itself does not. -/
theorem beforeQuery_append_mark {mark : Char} (hmark : mark = '?' ∨ mark = '#')
    (uri rest : List Char) : beforeQuery (uri ++ mark :: rest) = beforeQuery uri := by
  by_cases h : '?' ∈ uri ∨ '#' ∈ uri
  · exact beforeQuery_append_of_mem h _
  · obtain ⟨hquery, hfragment⟩ := not_or.1 h
    have hnone : beforeQuery (mark :: rest) = beforeQuery [] := by
      rcases hmark with rfl | rfl
      · simp [beforeQuery_eq]
      · simp [beforeQuery_eq]
    rw [beforeQuery_append_of_not_mem hquery hfragment, hnone,
      ← beforeQuery_append_of_not_mem hquery hfragment, List.append_nil]

/-- A detour in the path of a URI is not seen in its normal form.  One behind the path is not in
the path at all. -/
theorem normalize_beforeQuery_detour {detour : List Char} (h : LeadsBack detour)
    (hquery : '?' ∉ detour) (hfragment : '#' ∉ detour) (front rest : List Char) :
    normalize (beforeQuery (front ++ '/' :: (detour ++ '/' :: rest))) =
      normalize (beforeQuery (front ++ '/' :: rest)) := by
  by_cases hmark : '?' ∈ front ∨ '#' ∈ front
  · rw [beforeQuery_append_of_mem hmark, beforeQuery_append_of_mem hmark]
  · obtain ⟨hfrontQuery, hfrontFragment⟩ := not_or.1 hmark
    have hslash : ∀ text, beforeQuery ('/' :: text) = '/' :: beforeQuery text := fun text =>
      @beforeQuery_append_of_not_mem ['/'] (by decide) (by decide) text
    rw [beforeQuery_append_of_not_mem hfrontQuery hfrontFragment,
      beforeQuery_append_of_not_mem hfrontQuery hfrontFragment, hslash, hslash,
      beforeQuery_append_of_not_mem hquery hfragment, hslash, normalize_detour h]

/-! ## Spellings of a URI -/

namespace Mount

variable (m : Mount)

/-- Rooted URIs whose paths have one normal form have one target, or one error. -/
theorem resolve_congr {uri other : String} (huri : uri.toList.head? = some '/')
    (hother : other.toList.head? = some '/')
    (h : normalize (beforeQuery other.toList) = normalize (beforeQuery uri.toList)) :
    m.resolve other = m.resolve uri := by
  simp only [resolve, requestPath?_of_head? huri, requestPath?_of_head? hother, h]

/-- A detour in a rooted URI makes no difference. -/
theorem resolve_detour {uri other : String} {front detour rest : List Char}
    (hfront : front = [] ∨ front.head? = some '/') (hdetour : LeadsBack detour)
    (hquery : '?' ∉ detour) (hfragment : '#' ∉ detour) (huri : uri.toList = front ++ '/' :: rest)
    (hother : other.toList = front ++ '/' :: (detour ++ '/' :: rest)) :
    m.resolve other = m.resolve uri := by
  have hhead : ∀ text, (front ++ '/' :: text).head? = some '/' := by
    intro text
    rcases hfront with rfl | hfront
    · rfl
    · rw [List.head?_append, hfront]
      rfl
  apply m.resolve_congr
  · rw [huri, hhead]
  · rw [hother, hhead]
  · rw [huri, hother, normalize_beforeQuery_detour hdetour hquery hfragment]

/-- What is put behind a rooted URI as its query or fragment makes no difference. -/
theorem resolve_append_mark {uri other : String} {mark : Char} (hmark : mark = '?' ∨ mark = '#')
    (huri : uri.toList.head? = some '/') (rest : List Char)
    (hother : other.toList = uri.toList ++ mark :: rest) : m.resolve other = m.resolve uri := by
  apply m.resolve_congr huri
  · rw [hother, List.head?_append, huri]
    rfl
  · rw [hother, beforeQuery_append_mark hmark]

/-- **Other spellings of a URI make no difference.**  On any mount, wherever in a path a slash is
repeated, its directory is named or another one is entered and left, and whatever query and
fragment are put behind it, the target stays the same, and so does the error. -/
theorem resolve_respelled {front name : String}
    (hfront : front = "" ∨ front.toList.head? = some '/') (hname : IsPlainName name.toList)
    (rest query fragment : String) :
    m.resolve (front ++ "//" ++ rest) = m.resolve (front ++ "/" ++ rest) ∧
      m.resolve (front ++ "/./" ++ rest) = m.resolve (front ++ "/" ++ rest) ∧
      m.resolve (front ++ "/" ++ name ++ "/../" ++ rest) = m.resolve (front ++ "/" ++ rest) ∧
      m.resolve (front ++ "/" ++ rest ++ "?" ++ query) = m.resolve (front ++ "/" ++ rest) ∧
      m.resolve (front ++ "/" ++ rest ++ "#" ++ fragment) = m.resolve (front ++ "/" ++ rest) ∧
      m.resolve (front ++ "/" ++ rest ++ "?" ++ query ++ "#" ++ fragment) =
        m.resolve (front ++ "/" ++ rest) := by
  obtain ⟨hisName, hquery, hfragment⟩ := hname
  have hstart : front.toList = [] ∨ front.toList.head? = some '/' := by
    rwa [String.toList_eq_nil_iff]
  have huri : (front ++ "/" ++ rest).toList = front.toList ++ '/' :: rest.toList := by simp
  have hhead : (front ++ "/" ++ rest).toList.head? = some '/' := by
    rw [huri]
    rcases hstart with hnil | hslash
    · rw [hnil]
      rfl
    · rw [List.head?_append, hslash]
      rfl
  refine ⟨?_, ?_, ?_, ?_, ?_, ?_⟩
  · exact m.resolve_detour hstart leadsBack_nil (by decide) (by decide) huri (by simp)
  · exact m.resolve_detour hstart leadsBack_dot (by decide) (by decide) huri (by simp)
  · refine m.resolve_detour hstart (leadsBack_dotDot hisName) ?_ ?_ huri (by simp)
    · simp [hquery]
    · simp [hfragment]
  · exact m.resolve_append_mark (.inl rfl) hhead query.toList (by simp)
  · exact m.resolve_append_mark (.inr rfl) hhead fragment.toList (by simp)
  · exact m.resolve_append_mark (.inl rfl) hhead (query.toList ++ '#' :: fragment.toList) (by simp)

/-- An activity whose id ends in a slash, with detours below the root and in the special area. -/
theorem resolve_respelled_activity :
    let m : Mount := ⟨"/repos", "!svn"⟩
    "/repos".toList.head? = some '/' ∧ IsPlainName "trunk".toList ∧
      m.resolve "/repos/trunk/../!svn/act/a%20b/" = .ok (.activity "a%20b/") ∧
      m.resolve "/repos/!svn/./act/a%20b/" = .ok (.activity "a%20b/") ∧
      m.resolve "/repos/!svn/act/a%20b/?p=/../#/../f" = .ok (.activity "a%20b/") := by
  intro m
  have hvalid : m.Valid := by decide
  have hroot : "/repos".toList.head? = some '/' := by decide
  have harea : "/repos/!svn".toList.head? = some '/' := by decide
  have hname : IsPlainName "trunk".toList := by decide
  have hplain : m.resolve "/repos/!svn/act/a%20b/" = .ok (.activity "a%20b/") := by
    have hbefore : beforeQuery "/repos/!svn/act/a%20b/".toList = "/repos/!svn/act/a%20b/".toList := by
      decide
    have hnames : Path.resolve "/repos/!svn/act/a%20b/".toList =
        m.rootSegments ++ ["!svn".toList, "act".toList, "a%20b".toList] := by
      decide
    have hdirectory : endsInDirectory "/repos/!svn/act/a%20b/".toList = true := by decide
    rw [hvalid.segmented.resolve_eq (by decide), hbefore, hnames, hdirectory, read_append, readBelow,
      if_pos rfl, readSpecial, if_pos rfl]
    rfl
  refine ⟨hroot, hname, ?_, ?_, ?_⟩
  · exact (m.resolve_respelled (.inr hroot) hname "!svn/act/a%20b/" "" "").2.2.1.trans hplain
  · exact (m.resolve_respelled (.inr harea) hname "act/a%20b/" "" "").2.1.trans hplain
  · exact (m.resolve_respelled (.inr harea) hname "act/a%20b/" "p=/../" "/../f").2.2.2.2.2.trans hplain

end Mount

end DavGateway
