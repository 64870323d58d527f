/-
# The grammar of request paths

What a request URI refers to is a matter of the names in its path, and of
whether the path ends in a slash: names below the root stand for an item, names
below the special segment for an activity or a version.  `Mount.read` says so
on lists of names, and reading the text of a URI agrees with it.

* `Path.leaves_segments_iff` : the names in a path are those that are left of its segments.
* `readRevision_cases` : a revision is a decimal number in range.
* `Mount.Segmented.resolve_eq` : a rooted URI is read by the names in its path.
-/
import DavGateway.Proofs.Path.Encoding
import DavGateway.Settings

open DavGateway.Path

namespace DavGateway

/-! ## Reading names -/

/-- The part of a URI before its query and fragment. -/
def beforeQuery (uri : List Char) : List Char :=
  (uri.takeWhile (· ≠ '#')).takeWhile (· ≠ '?')

/-- The segments of the root; the bare slash has none. -/
def Mount.rootSegments (m : Mount) : List (List Char) :=
  if m.root = "/" then [] else (segments m.root.toList).tail

/-- What names refer to as the path of a version: the root if there are none. -/
def readVersionPath (directory : Bool) (names : List (List Char)) : Except UriError String :=
  if names = [] then .ok "/" else decodePath (join names ++ slashIf directory)

/-- What names below the special segment refer to: an activity by its id, or a path as of a
revision.  Nothing else can be asked for. -/
def readSpecial (directory : Bool) : List (List Char) → Except UriError Target
  | kind :: first :: names =>
    if kind = "act".toList then
      .ok (.activity (String.ofList (first ++ join names ++ slashIf directory)))
    else if kind = "ver".toList ∨ kind = "rvr".toList then
      match readRevision first with
      | .error e => .error e
      | .ok revision => (readVersionPath directory names).map (.version revision)
    else .error .unsupportedForm
  | _ => .error .unsupportedForm

/-- What names below the root refer to: those below the special segment what that area has for
them, all others an item. -/
def Mount.readBelow (m : Mount) (directory : Bool) : List (List Char) → Except UriError Target
  | [] => .ok (.item "/")
  | first :: rest =>
    if first = m.special.toList then readSpecial directory rest
    else (decodePath (join (first :: rest) ++ slashIf directory)).map .item

/-- What the names of a path refer to.  They have to begin with the segments of the root. -/
def Mount.read (m : Mount) (directory : Bool) (names : List (List Char)) :
    Except UriError Target :=
  if m.rootSegments <+: names then m.readBelow directory (names.drop m.rootSegments.length)
  else .error .outsideMount

/-- Names behind the segments of the root are read below it. -/
theorem Mount.read_append (m : Mount) (directory : Bool) (names : List (List Char)) :
    m.read directory (m.rootSegments ++ names) = m.readBelow directory names := by
  rw [read, if_pos (List.prefix_append _ _), List.drop_left]

/-! ## The names in a path -/

namespace Path

/-- The names that are left of segments, as they come: an empty segment and a dot leave none, two
dots take back the last one, if there is one, and any other segment is a name. -/
inductive Leaves : List (List Char) → List (List Char) → Prop
  | nil : Leaves [] []
  | skip {segs names : List (List Char)} {seg : List Char} (h : Leaves segs names)
    (hseg : seg = [] ∨ seg = ['.']) : Leaves (segs ++ [seg]) names
  | back {segs names : List (List Char)} (h : Leaves segs names) :
    Leaves (segs ++ [['.', '.']]) names.dropLast
  | name {segs names : List (List Char)} {seg : List Char} (h : Leaves segs names)
    (hne : seg ≠ []) (hdot : seg ≠ ['.']) (hdots : seg ≠ ['.', '.']) :
    Leaves (segs ++ [seg]) (names ++ [seg])

/-- A step of resolution leaves what one more segment does; it keeps the last name in front. -/
theorem Leaves.resolveStep {segs kept : List (List Char)} (h : Leaves segs kept.reverse)
    (seg : List Char) : Leaves (segs ++ [seg]) (resolveStep kept seg).reverse := by
  unfold Path.resolveStep
  split
  · next hseg => exact h.skip hseg
  split
  · next hdots =>
    rw [hdots, ← List.dropLast_reverse]
    exact h.back
  · next hskip hdots =>
    rw [List.reverse_cons]
    exact h.name (fun hnil => hskip (.inl hnil)) (fun hdot => hskip (.inr hdot)) hdots

/-- Resolution leaves what all of the segments do. -/
theorem Leaves.foldl_resolveStep {segs kept : List (List Char)} (h : Leaves segs kept.reverse)
    (more : List (List Char)) :
    Leaves (segs ++ more) (more.foldl Path.resolveStep kept).reverse := by
  induction more generalizing segs kept with
  | nil => simpa using h
  | cons seg more ih =>
    rw [List.append_cons]
    exact ih (h.resolveStep seg)

/-- Nothing else is left of segments than what resolution leaves. -/
theorem Leaves.reverse_foldl_resolveStep {segs names : List (List Char)} (h : Leaves segs names) :
    (segs.foldl Path.resolveStep []).reverse = names := by
  induction h with
  | nil => rfl
  | skip h hseg ih =>
    rw [List.foldl_append, List.foldl_cons, List.foldl_nil, Path.resolveStep, if_pos hseg, ih]
  | back h ih =>
    rw [List.foldl_append, List.foldl_cons, List.foldl_nil, resolveStep_dotDot,
      ← List.dropLast_reverse, ih]
  | name h hne hdot hdots ih =>
    rw [List.foldl_append, List.foldl_cons, List.foldl_nil, Path.resolveStep,
      if_neg (not_or.2 ⟨hne, hdot⟩), if_neg hdots, List.reverse_cons, ih]

/-- The names in a path are those that are left of its segments. -/
theorem leaves_segments_iff {path : List Char} {names : List (List Char)} :
    Leaves (segments path) names ↔ resolve path = names := by
  constructor
  · exact Leaves.reverse_foldl_resolveStep
  · rintro rfl
    have hnil : Leaves [] ([] : List (List Char)).reverse := .nil
    exact hnil.foldl_resolveStep (segments path)

end Path

/-! ## The number in a version -/

/-- Whether a text is a number in decimal, perhaps behind a plus sign. -/
def SpellsNumber (text : List Char) (n : Nat) : Prop :=
  ∃ digits, (text = digits ∨ text = '+' :: digits) ∧
    digits ≠ [] ∧ (∀ c ∈ digits, c.isDigit = true) ∧ Nat.ofDigitChars 10 digits 0 = n

/-- A revision is read from just the texts of its number. -/
theorem ofDigits?_eq_some_iff_spellsNumber {text : List Char} {revision : Revision} :
    Revision.ofDigits? text = some revision ↔ SpellsNumber text revision.toNat := by
  rw [Revision.ofDigits?_eq_some_iff, Decimal.unsigned?_eq_some_iff]
  constructor
  · rintro (h | ⟨digits, htext, h⟩)
    · exact ⟨text, .inl rfl, Decimal.nat?_eq_some_iff.1 h⟩
    · exact ⟨digits, .inr htext, Decimal.nat?_eq_some_iff.1 h⟩
  · rintro ⟨digits, rfl | htext, h⟩
    · exact .inl (Decimal.nat?_eq_some_iff.2 h)
    · exact .inr ⟨digits, htext, Decimal.nat?_eq_some_iff.2 h⟩

/-- A number in range is read as a revision, and anything else is refused. -/
theorem readRevision_cases (text : List Char) :
    (∃ revision : Revision, SpellsNumber text revision.toNat ∧
      readRevision text = .ok revision) ∨
    (∀ n < UInt64.size, ¬ SpellsNumber text n) ∧ readRevision text = .error .unparsable := by
  cases hread : Revision.ofDigits? text with
  | some revision =>
    left
    exact ⟨revision, ofDigits?_eq_some_iff_spellsNumber.1 hread, by rw [readRevision, hread]⟩
  | none =>
    right
    refine ⟨?_, by rw [readRevision, hread]⟩
    intro n hn hnumber
    have hrevision : (UInt64.ofNat n).toNat = n := UInt64.toNat_ofNat_of_lt hn
    have hsome : Revision.ofDigits? text = some (UInt64.ofNat n) := by
      rwa [ofDigits?_eq_some_iff_spellsNumber, hrevision]
    rw [hsome] at hread
    cases hread

/-! ## Mounts that are seen in names -/

/-- A mount whose root is its segments, the last of them not empty, and whose special segment
is one segment. -/
structure Mount.Segmented (m : Mount) : Prop where
  join_rootSegments : join m.rootSegments = m.base
  last_ne_nil : m.rootSegments.getLast? ≠ some []
  slash_not_mem_special : '/' ∉ m.special.toList

/-- No segment of the root has a slash in it. -/
theorem Mount.slash_not_mem_of_mem_rootSegments {m : Mount} {s : List Char}
    (h : s ∈ m.rootSegments) : '/' ∉ s := by
  unfold rootSegments at h
  split at h
  · simp at h
  · exact not_mem_of_mem_segments (List.mem_of_mem_tail h)

/-- The segments of a root that begins with a slash make up what it adds to a path. -/
theorem Mount.join_rootSegments_of_head? {m : Mount} (h : m.root.toList.head? = some '/') :
    join m.rootSegments = m.base := by
  unfold rootSegments base
  split
  · rfl
  · obtain ⟨rest, hrest⟩ := List.head?_eq_some_iff.1 h
    rw [hrest, segments_slash_cons, List.tail_cons, join_segments]

/-- The mounts of well-formed settings are seen in names. -/
theorem Mount.Valid.segmented {m : Mount} (h : m.Valid) : m.Segmented := by
  obtain ⟨hhead, hlast, -, hslash⟩ := h
  have hjoin := join_rootSegments_of_head? hhead
  refine ⟨hjoin, ?_, hslash⟩
  rcases hlast with hroot | hlast
  · simp [rootSegments, hroot]
  · -- an empty last segment would put a slash at the end of the root
    intro hnil
    obtain ⟨front, hfront⟩ := List.getLast?_eq_some_iff.1 hnil
    have hroot : m.root ≠ "/" := fun h => hlast (by rw [h]; rfl)
    rw [hfront, base, if_neg hroot] at hjoin
    exact hlast (by rw [← hjoin]; simp)

/-! ## Text and names agree -/

/-- A revision is read back from its digits. -/
theorem readRevision_digits (revision : Revision) :
    readRevision revision.digits = .ok revision := by
  rw [readRevision, Revision.ofDigits?_digits]

/-- A version is read by the names behind its kind. -/
theorem versionTarget_eq {first : List Char} (hfirst : '/' ∉ first) (names : List (List Char))
    (directory : Bool) :
    versionTarget (first ++ (join names ++ slashIf directory)) =
      match readRevision first with
      | .error e => .error e
      | .ok revision => (readVersionPath directory names).map (.version revision) := by
  have hrest := boundary_join_append (boundary_slashIf directory) names
  rcases hrest.eq_nil_or_cons with hnil | ⟨path, hcons⟩
  · -- nothing follows the revision, not even a slash
    have hnames : names = [] := by
      cases names with
      | nil => rfl
      | cons s names => simp at hnil
    rw [hnil, List.append_nil, versionTarget, Cut.atFirst?_eq_none_iff.2 hfirst, readVersionPath,
      if_pos hnames]
    cases readRevision first with
    | error e => rfl
    | ok revision => rfl
  · rw [hcons, versionTarget, Cut.atFirst?_append hfirst]
    cases hrevision : readRevision first with
    | error e => simp only [hrevision]
    | ok revision =>
      -- without names, a slash behind the revision is the path itself
      have hpath : decodePath ('/' :: path) = readVersionPath directory names := by
        unfold readVersionPath
        split
        · next hnames =>
          have : path = [] := by
            rw [hnames] at hcons
            cases directory with
            | false => simp at hcons
            | true => simpa using hcons.symm
          rw [this]
          exact decodePath_join_encode [] true
        · rw [hcons]
      simp only [hrevision, hpath]

/-- The special area is read by the names in it. -/
theorem specialTarget_eq {names : List (List Char)} (hnames : ∀ s ∈ names, IsName s)
    (directory : Bool) :
    specialTarget (join names ++ slashIf directory) = readSpecial directory names := by
  rcases names with _ | ⟨kind, _ | ⟨first, names⟩⟩
  · cases directory with
    | false => rfl
    | true => rfl
  · have hkind : '/' ∉ kind := (hnames kind (by simp)).2.2.2
    cases directory with
    | false => simp [specialTarget, readSpecial, Cut.atFirst?_eq_none_iff.2 hkind]
    | true => simp [specialTarget, readSpecial, Cut.atFirst?_append hkind]
  · have hkind : '/' ∉ kind := (hnames kind (by simp)).2.2.2
    have hfirst : IsName first := hnames first (by simp)
    have hdrop : (join (kind :: first :: names) ++ slashIf directory).drop 1 =
        kind ++ '/' :: (first ++ (join names ++ slashIf directory)) := by
      simp
    have hrest : first ++ (join names ++ slashIf directory) ≠ [] := by
      simp [hfirst.1]
    rw [specialTarget, hdrop, Cut.atFirst?_append hkind]
    simp only [if_neg hrest, versionTarget_eq hfirst.2.2.2, readSpecial, List.append_assoc]

/-- A normal form is read by its names. -/
theorem Mount.Segmented.locate_eq {m : Mount} (h : m.Segmented) {names : List (List Char)}
    (hnames : ∀ s ∈ names, IsName s) (directory : Bool) :
    m.locate (join names ++ slashIf (names = [] || directory)) = m.read directory names := by
  rw [locate, ← h.join_rootSegments, after?_join (fun s hs => slash_not_mem_of_mem_rootSegments hs)
    h.last_ne_nil (fun s hs => (hnames s hs).2.2.2)]
  by_cases hprefix : m.rootSegments <+: names
  · obtain ⟨more, rfl⟩ := hprefix
    rw [read_append, if_pos (List.prefix_append _ _), List.drop_left]
    cases more with
    | nil =>
      have hdrop : ∀ d, (join [] ++ slashIf d).drop 1 = [] := by decide
      simp only [if_pos (hdrop _), readBelow]
    | cons first rest =>
      have hfirst : IsName first := hnames first (by simp)
      have hrest : ∀ s ∈ rest, IsName s := fun s hs => hnames s (by simp [hs])
      have hdrop : (join (first :: rest) ++ slashIf directory).drop 1 =
          first ++ (join rest ++ slashIf directory) := by
        simp
      have hne : first ++ (join rest ++ slashIf directory) ≠ [] := by
        simp [hfirst.1]
      -- with a name in it, the path ends in a slash only if it is that of a directory
      have hsome : (decide (m.rootSegments ++ first :: rest = []) || directory) = directory := by
        simp
      simp only [hsome, hdrop, if_neg hne, readBelow]
      rw [after?_segment h.slash_not_mem_special hfirst.2.2.2
        (boundary_join_append (boundary_slashIf _) _)]
      by_cases hspecial : first = m.special.toList
      · simp only [if_pos hspecial, specialTarget_eq hrest]
      · simp only [if_neg hspecial]
  · rw [if_neg hprefix, read, if_neg hprefix]

/-- A URI that begins with a slash asks for the path before its query. -/
theorem requestPath?_of_head? {uri : List Char} (h : uri.head? = some '/') :
    requestPath? uri = some (beforeQuery uri) := by
  obtain ⟨rest, rfl⟩ := List.head?_eq_some_iff.1 h
  simp [requestPath?, beforeQuery]

/-- The path before the query begins with the slash that the URI begins with. -/
theorem head?_beforeQuery {uri : List Char} (h : uri.head? = some '/') :
    (beforeQuery uri).head? = some '/' := by
  obtain ⟨rest, rfl⟩ := List.head?_eq_some_iff.1 h
  simp [beforeQuery]

/-- A URI is read by the names in the path that it asks for. -/
theorem Mount.Segmented.resolve_eq_of_requestPath? {m : Mount} (h : m.Segmented) {uri : String}
    {path : List Char} (hpath : requestPath? uri.toList = some path) :
    m.resolve uri = m.read (isDirectoryForm path) (Path.resolve path) := by
  rw [resolve, hpath]
  simp only [normalize_eq]
  exact h.locate_eq (fun s hs => isName_of_mem_resolve hs) _

/-- A rooted URI is read by the names in its path. -/
theorem Mount.Segmented.resolve_eq {m : Mount} (h : m.Segmented) {uri : String}
    (huri : uri.toList.head? = some '/') :
    m.resolve uri = m.read (endsInDirectory (beforeQuery uri.toList))
      (Path.resolve (beforeQuery uri.toList)) := by
  rw [h.resolve_eq_of_requestPath? (requestPath?_of_head? huri),
    isDirectoryForm_eq_endsInDirectory (head?_beforeQuery huri)]

/-- **The grammar of request paths.**  Under settings that pass the check, what a rooted URI
refers to is read off the names in its path, and whether that path ends in a directory.  The names
are those that are left of the segments of the path, and a revision among them is a number in
range. -/
theorem Settings.resolve_eq_read (s : Settings) {uri : String}
    (huri : uri.toList.head? = some '/') :
    s.mount.resolve uri = s.mount.read (endsInDirectory (beforeQuery uri.toList))
      (Path.resolve (beforeQuery uri.toList)) ∧
    (∀ names, Leaves (segments (beforeQuery uri.toList)) names ↔
      Path.resolve (beforeQuery uri.toList) = names) ∧
    ∀ text,
      (∃ revision : Revision, SpellsNumber text revision.toNat ∧
        readRevision text = .ok revision) ∨
      (∀ n < UInt64.size, ¬ SpellsNumber text n) ∧ readRevision text = .error .unparsable :=
  ⟨s.mount_valid.segmented.resolve_eq huri, fun _ => leaves_segments_iff, readRevision_cases⟩

/-- A version below a root, asked for by a path that is not in normal form, and a version whose
revision is the first one out of range. -/
theorem Settings.resolve_eq_read_version :
    ∃ s : Settings, ({ root := "/repos/" } : Settings.Draft).check = .ok s ∧
      "/x/../repos//!svn/./ver/17/a%20b/?p#f".toList.head? = some '/' ∧
      s.mount.resolve "/x/../repos//!svn/./ver/17/a%20b/?p#f" = .ok (.version 17 "/a b/") ∧
      s.mount.resolve "/repos/!svn/rvr/18446744073709551616/a" = .error .unparsable := by
  have hcheck : ({ root := "/repos/" } : Settings.Draft).check = .ok
      { mount := ⟨"/repos", "!svn"⟩, bodyLimit := 1000000, parentDirectory := none,
        listParent := false, outputBuffer := 8192, mount_valid := by decide,
        outputBuffer_pos := by decide } := by
    rfl
  refine ⟨_, hcheck, by decide, ?_, ?_⟩
  · rw [(Settings.resolve_eq_read _ (by decide)).1]
    have hnames : Path.resolve (beforeQuery "/x/../repos//!svn/./ver/17/a%20b/?p#f".toList) =
        (⟨"/repos", "!svn"⟩ : Mount).rootSegments ++
          ["!svn".toList, "ver".toList, (17 : Revision).digits, Percent.encode "a b".toList] := by
      decide
    have hdirectory :
        endsInDirectory (beforeQuery "/x/../repos//!svn/./ver/17/a%20b/?p#f".toList) = true := by
      decide
    have hpath : readVersionPath true [Percent.encode "a b".toList] = .ok "/a b/" :=
      decodePath_join_encode ["a b".toList] true
    rw [hnames, hdirectory, Mount.read_append, Mount.readBelow, if_pos rfl, readSpecial,
      if_neg (by decide), if_pos (.inl rfl), readRevision_digits, hpath]
    rfl
  · rw [(Settings.resolve_eq_read _ (by decide)).1]
    have hnames : Path.resolve (beforeQuery "/repos/!svn/rvr/18446744073709551616/a".toList) =
        (⟨"/repos", "!svn"⟩ : Mount).rootSegments ++
          ["!svn".toList, "rvr".toList, "18446744073709551616".toList, ['a']] := by
      decide
    have hrevision : readRevision "18446744073709551616".toList = .error .unparsable := rfl
    rw [hnames, Mount.read_append, Mount.readBelow, if_pos rfl, readSpecial, if_neg (by decide),
      if_pos (.inr rfl), hrevision]

end DavGateway
