/-
# Canonical and normal paths

What clients must send and what resolution makes of a path were written down
apart: one checks the segments between slashes, the other keeps names on a
stack.  They agree.  A normal form is canonical once the slash at its end is
taken off, and a rooted path without `..` is canonical just if it is its own
normal form and has no such slash.

* `normalize_normalize`, `isResolved_normalize` : normal forms are resolved for good.
* `isCanonical_slash_cons` : a rooted path is never taken for a URL.
* `canonical_iff_normal` : the two notions agree.
-/
import DavGateway.Proofs.Path.Join
import DavGateway.Report.Canonical
import DavGateway.Settings

namespace DavGateway.Path

/-! ## Normal forms -/

/-- Without a slash a path ends in no directory, unless it is a dot segment and so resolves to
nothing. -/
theorem resolve_eq_nil_of_isDirectoryForm {path : List Char} (hslash : '/' ∉ path)
    (h : isDirectoryForm path = true) : resolve path = [] := by
  rw [isDirectoryForm, segments_of_not_mem hslash] at h
  obtain (rfl | rfl) | rfl : (path = [] ∨ path = ['.']) ∨ path = ['.', '.'] := by simpa using h
  · decide
  · decide
  · decide

/-- Every normal form can be read off the names in the path, and off how its text ends. -/
theorem normalize_eq_of_endsInDirectory (path : List Char) :
    normalize path =
      join (resolve path) ++ slashIf (resolve path = [] || endsInDirectory path) := by
  rw [normalize_eq]
  by_cases hslash : '/' ∈ path
  · rw [isDirectoryForm_eq_of_mem hslash]
  · by_cases hresolve : resolve path = []
    · simp [hresolve]
    · have hform : isDirectoryForm path = false := by
        rw [← Bool.not_eq_true]
        exact fun h => hresolve (resolve_eq_nil_of_isDirectoryForm hslash h)
      rw [hform, endsInDirectory_of_not_mem hslash]

/-- Joined names are their own normal form, unless there are none and the slash is missing. -/
theorem normalize_joined {names : List (List Char)} (h : ∀ s ∈ names, IsName s) {directory : Bool}
    (hne : names ≠ [] ∨ directory = true) :
    normalize (join names ++ slashIf directory) = join names ++ slashIf directory := by
  have hkeep : (decide (names = []) || directory) = directory := by
    rcases hne with hne | rfl
    · simp [hne]
    · simp
  rw [normalize_eq_of_endsInDirectory, resolve_joined h, endsInDirectory_joined h, hkeep]

/-- A normal form consists of joined names. -/
theorem exists_normalize_eq (path : List Char) :
    ∃ directory, (resolve path ≠ [] ∨ directory = true) ∧
      normalize path = join (resolve path) ++ slashIf directory := by
  refine ⟨_, ?_, normalize_eq path⟩
  by_cases h : resolve path = []
  · exact .inr (by simp [h])
  · exact .inl h

/-- Normal forms are left as they are. -/
theorem normalize_normalize (path : List Char) : normalize (normalize path) = normalize path := by
  obtain ⟨directory, hne, h⟩ := exists_normalize_eq path
  rw [h, normalize_joined (fun s hs => isName_of_mem_resolve hs) hne]

/-- Normal forms are resolved. -/
theorem isResolved_normalize (path : List Char) : IsResolved (normalize path) := by
  obtain ⟨directory, hne, h⟩ := exists_normalize_eq path
  rw [h]
  exact isResolved_joined (fun s hs => isName_of_mem_resolve hs) hne

/-! ## Slashes at the end -/

/-- A path without the slash at its end; a slash alone stays. -/
def withoutSlash (path : List Char) : List Char :=
  if path = ['/'] then path else Settings.trimSlash path

/-- Joined names do not end in a slash. -/
theorem getLast?_join_ne {names : List (List Char)} (h : ∀ s ∈ names, IsName s) :
    (join names).getLast? ≠ some '/' := by
  intro hlast
  obtain ⟨front, hfront⟩ := List.getLast?_eq_some_iff.1 hlast
  -- otherwise they would end in a directory
  have hends : endsInDirectory (front ++ ['/']) = true := endsInDirectory_append_slash front (by simp)
  have hnot := endsInDirectory_joined h false
  rw [slashIf_false, List.append_nil, hfront, hends] at hnot
  cases hnot

/-- Names are what is left of a normal form. -/
theorem withoutSlash_normalize (path : List Char) :
    withoutSlash (normalize path) =
      if resolve path = [] then ['/'] else join (resolve path) := by
  obtain ⟨directory, hne, h⟩ := exists_normalize_eq path
  have hnames : ∀ s ∈ resolve path, IsName s := fun s hs => isName_of_mem_resolve hs
  rw [h]
  by_cases hnil : resolve path = []
  · obtain rfl : directory = true := hne.resolve_left (not_not_intro hnil)
    rw [hnil]
    decide
  · have hslash : join (resolve path) ++ slashIf directory ≠ ['/'] := by
      obtain ⟨first, rest, hcons⟩ := List.exists_cons_of_ne_nil hnil
      have hfirst : first ≠ [] := (hnames first (by simp [hcons])).1
      simp [hcons, hfirst]
    rw [withoutSlash, if_neg hslash, if_neg hnil, Settings.trimSlash]
    cases directory with
    | true => simp
    | false => rw [slashIf_false, List.append_nil, if_neg (getLast?_join_ne hnames)]

/-! ## Canonical paths -/

/-- A relative path is canonical if it is empty, or no segment of it is empty or a dot. -/
theorem isCanonicalRelative_iff {path : List Char} :
    isCanonicalRelative path = true ↔
      path = [] ∨ ∀ seg ∈ segments path, seg ≠ [] ∧ seg ≠ ['.'] := by
  simp [isCanonicalRelative]

/-- A path without `..` is canonical if it is empty, or consists of names. -/
theorem isCanonicalRelative_iff_isName {path : List Char} (hdots : ['.', '.'] ∉ segments path) :
    isCanonicalRelative path = true ↔ path = [] ∨ ∀ seg ∈ segments path, IsName seg := by
  rw [isCanonicalRelative_iff]
  refine or_congr_right (forall₂_congr fun seg hseg => ⟨fun h => ?_, fun h => ⟨h.1, h.2.1⟩⟩)
  exact ⟨h.1, h.2, fun heq => hdots (heq ▸ hseg), not_mem_of_mem_segments hseg⟩

/-- Text without `://` is no URL. -/
theorem isCanonicalUrl_of_not_infix {text : List Char} (h : ¬ "://".toList <:+: text) :
    isCanonicalUrl text = false := by
  unfold isCanonicalUrl
  split
  · rfl
  · next scheme rest hcut => exact absurd ⟨scheme, rest, (Cut.eq_of_around? hcut).symm⟩ h

/-- No URL begins with a slash: its scheme would. -/
theorem isCanonicalUrl_slash_cons (path : List Char) : isCanonicalUrl ('/' :: path) = false := by
  unfold isCanonicalUrl
  split
  · rfl
  · next scheme rest hcut =>
    cases scheme with
    | nil => rfl
    | cons c scheme =>
      obtain ⟨rfl, -⟩ := List.cons.inj (Cut.eq_of_around? hcut)
      have hslash : isSchemeChar '/' = false := by decide
      simp [hslash]

/-- A rooted path is canonical if what stands behind its slash is. -/
theorem isCanonical_slash_cons (path : List Char) :
    isCanonical ('/' :: path) = isCanonicalRelative path := by
  have hrelative : isCanonicalRelative ('/' :: path) = false := by
    simp [isCanonicalRelative, segments_slash_cons]
  rw [isCanonical, isCanonicalUrl_slash_cons, hrelative]
  simp [isCanonicalRooted]

/-- Text that is neither rooted nor a URL is canonical if it is so as a relative path. -/
theorem isCanonical_of_not_rooted {path : List Char} (hne : path ≠ [])
    (hhead : path.head? ≠ some '/') (hurl : ¬ "://".toList <:+: path) :
    isCanonical path = isCanonicalRelative path := by
  have hrooted : isCanonicalRooted path = false := by
    unfold isCanonicalRooted
    split
    · exact absurd rfl hhead
    · rfl
  rw [isCanonical, isCanonicalUrl_of_not_infix hurl, hrooted]
  simp [hne]

/-- Joined names are canonical. -/
theorem isCanonical_join {names : List (List Char)} (h : ∀ s ∈ names, IsName s) :
    isCanonical (join names) = true := by
  cases names with
  | nil => rfl
  | cons name names =>
    have hsegs : segments (name ++ join names) = name :: names :=
      segments_append_join fun s hs => (h s hs).2.2.2
    rw [join_cons, List.cons_append, isCanonical_slash_cons, isCanonicalRelative_iff, hsegs]
    exact .inr fun s hs => ⟨(h s hs).1, (h s hs).2.1⟩

/-- A normal form is canonical without its slash. -/
theorem isCanonical_withoutSlash_normalize (path : List Char) :
    isCanonical (withoutSlash (normalize path)) = true := by
  rw [withoutSlash_normalize]
  split
  · decide
  · exact isCanonical_join fun s hs => isName_of_mem_resolve hs

/-- A rooted path without `..` is canonical if it is its own normal form, and ends in no slash
but the one that it begins with. -/
theorem isCanonical_iff_normalize_eq {path : List Char} (hhead : path.head? = some '/')
    (hdots : ['.', '.'] ∉ segments path) :
    isCanonical path = true ↔
      normalize path = path ∧ (path = ['/'] ∨ path.getLast? ≠ some '/') := by
  obtain ⟨rest, rfl⟩ := List.head?_eq_some_iff.1 hhead
  rw [segments_slash_cons, List.mem_cons, not_or] at hdots
  rw [isCanonical_slash_cons, isCanonicalRelative_iff_isName hdots.2]
  constructor
  · rintro (rfl | hnames)
    · exact ⟨by decide, .inl rfl⟩
    · rw [← join_segments rest]
      have hnormal := @normalize_joined _ hnames false (.inl (segments_ne_nil rest))
      rw [slashIf_false, List.append_nil] at hnormal
      exact ⟨hnormal, .inr (getLast?_join_ne hnames)⟩
  · rintro ⟨hnormal, hslash | hlast⟩
    · exact .inl (List.cons.inj hslash).2
    · -- no slash is left at the end, so the path consists of the names that were kept
      right
      obtain ⟨directory, -, h⟩ := exists_normalize_eq ('/' :: rest)
      have hnames : ∀ s ∈ resolve ('/' :: rest), IsName s := fun s hs => isName_of_mem_resolve hs
      rw [hnormal] at h
      cases directory with
      | true => exact absurd (by rw [h, slashIf_true, List.getLast?_concat]) hlast
      | false =>
        have hsegs : segments ('/' :: rest) = [] :: resolve ('/' :: rest) := by
          rw [slashIf_false, List.append_nil] at h
          exact (congrArg segments h).trans (segments_join fun s hs => (hnames s hs).2.2.2)
        rw [segments_slash_cons, List.cons_inj_right] at hsegs
        rwa [hsegs]

/-- What is accepted is canonical. -/
theorem checkCanonical_eq_ok_iff {path : String} :
    checkCanonical path = .ok () ↔ isCanonical path.toList = true := by
  simp [checkCanonical]

/-- **Canonical paths are normal paths.**  Every normal form is rooted and resolved, is its own
normal form, and is accepted without the slash at its end.  A rooted path without `..` is accepted
just if it is its own normal form and has no such slash.  Any other path that is not a URL is
accepted just if it is behind a slash. -/
theorem canonical_iff_normal :
    (∀ text : String,
      (normalize text.toList).head? = some '/' ∧ IsResolved (normalize text.toList) ∧
      normalize (normalize text.toList) = normalize text.toList ∧
      checkCanonical (String.ofList (withoutSlash (normalize text.toList))) = .ok ()) ∧
    (∀ path : String, path.toList.head? = some '/' → ['.', '.'] ∉ segments path.toList →
      (checkCanonical path = .ok () ↔
        normalize path.toList = path.toList ∧ (path = "/" ∨ path.toList.getLast? ≠ some '/'))) ∧
    ∀ path : String, path ≠ "" → path.toList.head? ≠ some '/' → ¬ "://".toList <:+: path.toList →
      (checkCanonical path = .ok () ↔ checkCanonical ("/" ++ path) = .ok ()) := by
  refine ⟨fun text => ⟨head?_normalize _, isResolved_normalize _, normalize_normalize _, ?_⟩,
    fun path hhead hdots => ?_, fun path hne hhead hurl => ?_⟩
  · rw [checkCanonical_eq_ok_iff, String.toList_ofList, isCanonical_withoutSlash_normalize]
  · have hslash : path = "/" ↔ path.toList = ['/'] := String.toList_inj.symm
    rw [checkCanonical_eq_ok_iff, isCanonical_iff_normalize_eq hhead hdots, hslash]
  · have hrooted : ("/" ++ path).toList = '/' :: path.toList := by simp
    rw [checkCanonical_eq_ok_iff, checkCanonical_eq_ok_iff, hrooted, isCanonical_slash_cons,
      isCanonical_of_not_rooted (by simpa using hne) hhead hurl]

/-- A path that is both, a path that is neither, and a relative path with a colon in it. -/
theorem canonical_iff_normal_trunk :
    (['.', '.'] ∉ segments "/trunk/a.b".toList ∧ checkCanonical "/trunk/a.b" = .ok ()) ∧
      (['.', '.'] ∉ segments "/trunk//a.b".toList ∧ checkCanonical "/trunk//a.b" ≠ .ok ()) ∧
      ¬ "://".toList <:+: "a:/b".toList ∧ checkCanonical ("/" ++ "a:/b") = .ok () := by
  have hdots : ['.', '.'] ∉ segments "/trunk/a.b".toList := by decide
  have hdots' : ['.', '.'] ∉ segments "/trunk//a.b".toList := by decide
  have hurl : ¬ "://".toList <:+: "a:/b".toList :=
    fun h => absurd (h.sublist.count_le '/') (by decide)
  obtain ⟨-, hrooted, hrelative⟩ := canonical_iff_normal
  refine ⟨⟨hdots, ?_⟩, ⟨hdots', ?_⟩, hurl, ?_⟩
  · exact (hrooted "/trunk/a.b" (by decide) hdots).2 ⟨by decide, .inr (by decide)⟩
  · rw [ne_eq, hrooted "/trunk//a.b" (by decide) hdots']
    exact fun h => absurd h.1 (by decide)
  · exact (hrelative "a:/b" (by decide) (by decide) hurl).1 (checkCanonical_eq_ok_iff.2 (by decide))

end DavGateway.Path
