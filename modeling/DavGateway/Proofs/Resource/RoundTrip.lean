/-
# URIs that are read back

On a mount whose root and special segment stand in a URI as they are, the URI
of a resource is read back: items and versions are found again with path and
revision, and an id put behind the URI of the activities is that of an
activity.  The other special resources can be named, but not asked for.

* `Mount.Plain.resolve_names` : names put below the base of a plain mount are read below its root.
* `Mount.Plain.resolve_uri` : what the URI of a resource refers to.
-/
import DavGateway.Proofs.Resource.Grammar
import Mathlib.Data.List.TakeWhile

open DavGateway.Path

namespace DavGateway

/-! ## Plain mounts -/

/-- A mount whose root is a slash, or plain names behind slashes, and whose special segment is a
plain name. -/
structure Mount.Plain (m : Mount) : Prop where
  root : m.root = "/" ∨ ∃ segs, (∀ s ∈ segs, IsPlainName s) ∧ m.root.toList = join segs
  special : IsPlainName m.special.toList

namespace Mount.Plain

variable {m : Mount}

/-- The segments of a plain root are plain names and make up what it adds to a path. -/
theorem rootSegments_spec (h : m.Plain) :
    (∀ s ∈ m.rootSegments, IsPlainName s) ∧ join m.rootSegments = m.base := by
  unfold rootSegments base
  split
  · exact ⟨by simp, rfl⟩
  · next hne =>
    rcases h.root with hroot | ⟨segs, hsegs, hroot⟩
    · exact absurd hroot hne
    · rw [hroot, segments_join fun s hs => (hsegs s hs).1.2.2.2]
      exact ⟨hsegs, rfl⟩

/-- A plain mount is seen in names. -/
theorem segmented (h : m.Plain) : m.Segmented := by
  refine ⟨h.rootSegments_spec.2, ?_, h.special.1.2.2.2⟩
  intro hlast
  have hnil : IsPlainName [] := h.rootSegments_spec.1 [] (List.mem_of_getLast? hlast)
  exact hnil.1.1 rfl

/-- A character of a joined path is a slash or stands in one of its segments. -/
theorem not_mem_joined {c : Char} {names : List (List Char)} (hc : c ≠ '/')
    (h : ∀ s ∈ names, c ∉ s) (directory : Bool) : c ∉ join names ++ slashIf directory := by
  intro hmem
  rcases List.mem_append.1 hmem with hmem | hmem
  · obtain ⟨s, hs, hcs⟩ := List.mem_flatMap.1 hmem
    rcases List.mem_cons.1 hcs with hslash | hcs
    · exact hc hslash
    · exact h s hs hcs
  · cases directory with
    | false => cases hmem
    | true => exact hc (by simpa using hmem)

/-- Plain names behind slashes have no query and no fragment. -/
theorem beforeQuery_joined {names : List (List Char)} (h : ∀ s ∈ names, IsPlainName s)
    (directory : Bool) :
    beforeQuery (join names ++ slashIf directory) = join names ++ slashIf directory := by
  have hhash := not_mem_joined (c := '#') (by decide) (fun s hs => (h s hs).2.2) directory
  have hquery := not_mem_joined (c := '?') (by decide) (fun s hs => (h s hs).2.1) directory
  have hkeep : ∀ {c : Char} {text : List Char}, c ∉ text → text.takeWhile (· ≠ c) = text := by
    intro c text hc
    rw [List.takeWhile_eq_self_iff]
    intro d hd
    have : d ≠ c := fun h => hc (h ▸ hd)
    simpa using this
  rw [beforeQuery, hkeep hhash, hkeep hquery]

/-- Names put below the base of a plain mount are read below its root. -/
theorem resolve_names (h : m.Plain) {names : List (List Char)}
    (hnames : ∀ s ∈ names, IsPlainName s) {directory : Bool} (hne : names ≠ [] ∨ directory) :
    m.resolve (String.ofList (m.base ++ (join names ++ slashIf directory))) =
      m.readBelow directory names := by
  have hall : ∀ s ∈ m.rootSegments ++ names, IsPlainName s := by
    intro s hs
    rcases List.mem_append.1 hs with hs | hs
    · exact h.rootSegments_spec.1 s hs
    · exact hnames s hs
  have huri : m.base ++ (join names ++ slashIf directory) =
      join (m.rootSegments ++ names) ++ slashIf directory := by
    rw [← h.rootSegments_spec.2, join_append, List.append_assoc]
  -- with no name at all, below a bare root, the slash of the directory is still there
  have hhead : (join (m.rootSegments ++ names) ++ slashIf directory).head? = some '/' := by
    cases hcases : m.rootSegments ++ names with
    | nil =>
      rcases hne with hne | hdirectory
      · exact absurd (List.append_eq_nil_iff.1 hcases).2 hne
      · simp [hdirectory]
    | cons s rest => simp
  rw [huri, h.segmented.resolve_eq (by rwa [String.toList_ofList]), String.toList_ofList,
    beforeQuery_joined hall, resolve_joined fun s hs => (hall s hs).1,
    endsInDirectory_joined fun s hs => (hall s hs).1, read_append]

/-- Names put into the special area are read in it. -/
theorem resolve_special (h : m.Plain) {names : List (List Char)}
    (hnames : ∀ s ∈ names, IsPlainName s) (directory : Bool) :
    m.resolve (String.ofList (m.specialArea ++ (join names ++ slashIf directory))) =
      readSpecial directory names := by
  have huri : m.specialArea ++ (join names ++ slashIf directory) =
      m.base ++ (join (m.special.toList :: names) ++ slashIf directory) := by
    simp [specialArea]
  rw [huri, h.resolve_names (List.forall_mem_cons.2 ⟨h.special, hnames⟩) (.inl (by simp)),
    readBelow, if_pos rfl]

end Mount.Plain

/-! ## Reading what was written -/

/-- The encoded names of an absolute path are read back as the path of a version. -/
theorem readVersionPath_encode (names : List (List Char)) :
    readVersionPath (names = []) (names.map Percent.encode) =
      .ok (String.ofList (absolute names)) := by
  cases names with
  | nil => rfl
  | cons s names =>
    rw [readVersionPath, if_neg (by simp), decodePath_join_encode]
    rfl

/-- A version is read back, by either name of its kind. -/
theorem readSpecial_version {kind : List Char} (hkind : kind = "ver".toList ∨ kind = "rvr".toList)
    (revision : Revision) (names : List (List Char)) :
    readSpecial (names = []) (kind :: revision.digits :: names.map Percent.encode) =
      .ok (.version revision (String.ofList (absolute names))) := by
  have hact : kind ≠ "act".toList := by
    rcases hkind with rfl | rfl
    · decide
    · decide
  rw [readSpecial, if_neg hact, if_pos hkind, readRevision_digits, readVersionPath_encode]
  rfl

namespace Mount.Plain

variable {m : Mount}

/-- The URI of a version is read back, by either name of its kind. -/
theorem resolve_specialArea_version (h : m.Plain) {kind : List Char}
    (hkind : kind = "ver".toList ∨ kind = "rvr".toList) (revision : Revision) {path : String}
    (hpath : IsAbsolute path.toList) :
    m.resolve (String.ofList (m.specialArea ++ ('/' :: kind ++ '/' :: revision.digits) ++
      Path.encode path.toList)) = .ok (.version revision path) := by
  obtain ⟨names, hnames, hpath⟩ := hpath
  have hplain : ∀ s ∈ kind :: revision.digits :: names.map Percent.encode, IsPlainName s := by
    rw [List.forall_mem_cons, List.forall_mem_cons]
    refine ⟨?_, isPlainName_digits revision, isPlainName_map_encode hnames⟩
    rcases hkind with rfl | rfl
    · decide
    · decide
  have huri : m.specialArea ++ ('/' :: kind ++ '/' :: revision.digits) ++
      Path.encode path.toList = m.specialArea ++
        (join (kind :: revision.digits :: names.map Percent.encode) ++ slashIf (names = [])) := by
    simp [hpath, encode_absolute hnames]
  rw [huri, h.resolve_special hplain, readSpecial_version hkind, ← hpath, String.ofList_toList]

/-- The URI of a version is read back. -/
theorem resolve_version (h : m.Plain) (revision : Revision) {path : String}
    (hpath : IsAbsolute path.toList) :
    m.resolve (m.uri (.version revision path)) = .ok (.version revision path) := by
  have huri : m.uriChars (.version revision path) = m.specialArea ++
      ('/' :: "ver".toList ++ '/' :: revision.digits) ++ Path.encode path.toList := by
    simp [uriChars]
  rw [uri, huri, h.resolve_specialArea_version (.inl rfl) revision hpath]

/-- The URI of a path below the root of a revision is read back as that of a version. -/
theorem resolve_revisionRoot (h : m.Plain) (revision : Revision) {path : String}
    (hpath : IsAbsolute path.toList) :
    m.resolve (m.uri (.revisionRoot revision path)) = .ok (.version revision path) := by
  have huri : m.uriChars (.revisionRoot revision path) = m.specialArea ++
      ('/' :: "rvr".toList ++ '/' :: revision.digits) ++ Path.encode path.toList := by
    simp [uriChars]
  rw [uri, huri, h.resolve_specialArea_version (.inr rfl) revision hpath]

/-- The URI of an item is read back, if its first segment is not taken for the special one. -/
theorem resolve_item (h : m.Plain) {path : String} (hpath : IsAbsolute path.toList)
    (hfirst : Percent.encode (first path.toList) ≠ m.special.toList) :
    m.resolve (m.uri (.item path)) = .ok (.item path) := by
  obtain ⟨names, hnames, hpath⟩ := hpath
  have hplain := isPlainName_map_encode hnames
  rw [hpath, first_absolute hnames] at hfirst
  have hitem : .ok (.item path) = (.ok (.item (String.ofList (absolute names))) :
      Except UriError Target) := by
    rw [← hpath, String.ofList_toList]
  rw [uri, uriChars, hpath, encode_absolute hnames, hitem]
  cases names with
  | nil =>
    -- the root is written as a slash, which has no first name to be taken for the special segment
    rw [h.resolve_names hplain (.inr (by simp))]
    rfl
  | cons s names =>
    have hne : Percent.encode s ≠ m.special.toList := hfirst
    rw [h.resolve_names hplain (.inl (by simp)), List.map_cons, readBelow, if_neg hne,
      ← List.map_cons, decodePath_join_encode]
    rfl

/-- A special resource of another kind cannot be asked for. -/
theorem resolve_specialArea_unsupported (h : m.Plain) {kind name : List Char}
    (hkind : kind = "bln".toList ∨ kind = "bc".toList ∨ kind = "vcc".toList)
    (hname : IsPlainName name) {names : List (List Char)} (hnames : ∀ s ∈ names, IsPlainName s)
    (directory : Bool) :
    m.resolve (String.ofList (m.specialArea ++
      (join (kind :: name :: names) ++ slashIf directory))) = .error .unsupportedForm := by
  have hcases : IsPlainName kind ∧ kind ≠ "act".toList ∧
      ¬ (kind = "ver".toList ∨ kind = "rvr".toList) := by
    rcases hkind with rfl | rfl | rfl
    · decide
    · decide
    · decide
  obtain ⟨hplain, hact, hversion⟩ := hcases
  rw [h.resolve_special (List.forall_mem_cons.2 ⟨hplain, List.forall_mem_cons.2 ⟨hname, hnames⟩⟩),
    readSpecial, if_neg hact, if_neg hversion]

/-- A baseline cannot be asked for. -/
theorem resolve_baseline (h : m.Plain) (revision : Revision) :
    m.resolve (m.uri (.baseline revision)) = .error .unsupportedForm := by
  have huri : m.uriChars (.baseline revision) = m.specialArea ++
      (join ["bln".toList, revision.digits] ++ slashIf false) := by
    simp [uriChars]
  rw [uri, huri]
  exact h.resolve_specialArea_unsupported (.inl rfl) (isPlainName_digits revision) (by simp) false

/-- A path in the tree of a baseline cannot be asked for. -/
theorem resolve_baselineCollection (h : m.Plain) (revision : Revision) {path : String}
    (hpath : IsAbsolute path.toList) :
    m.resolve (m.uri (.baselineCollection revision path)) = .error .unsupportedForm := by
  obtain ⟨names, hnames, hpath⟩ := hpath
  have huri : m.uriChars (.baselineCollection revision path) = m.specialArea ++
      (join ("bc".toList :: revision.digits :: names.map Percent.encode) ++
        slashIf (names = [])) := by
    simp [uriChars, hpath, encode_absolute hnames]
  rw [uri, huri]
  exact h.resolve_specialArea_unsupported (.inr (.inl rfl)) (isPlainName_digits revision)
    (isPlainName_map_encode hnames) _

/-- The configuration cannot be asked for. -/
theorem resolve_configuration (h : m.Plain) :
    m.resolve (m.uri .configuration) = .error .unsupportedForm := by
  have huri : m.uriChars .configuration = m.specialArea ++
      (join ["vcc".toList, "default".toList] ++ slashIf false) := by
    simp [uriChars]
  rw [uri, huri]
  exact h.resolve_specialArea_unsupported (.inr (.inr rfl)) (by decide) (by simp) false

/-- The collection of activities cannot be asked for. -/
theorem resolve_activities (h : m.Plain) :
    m.resolve (m.uri .activities) = .error .unsupportedForm := by
  have huri : m.uriChars .activities = m.specialArea ++ (join ["act".toList] ++ slashIf true) := rfl
  rw [uri, huri, h.resolve_special (by decide)]
  rfl

/-- An id behind the URI of the activities is that of an activity. -/
theorem resolve_activity (h : m.Plain) {id : String} (hid : IsPlainName id.toList) :
    m.resolve (m.uri .activities ++ id) = .ok (.activity id) := by
  have huri : m.uri .activities ++ id =
      String.ofList (m.specialArea ++ (join ["act".toList, id.toList] ++ slashIf false)) := by
    rw [← String.toList_inj]
    simp [uri, uriChars]
  have hplain : ∀ s ∈ ["act".toList, id.toList], IsPlainName s := by
    rw [List.forall_mem_cons, List.forall_mem_singleton]
    exact ⟨by decide, hid⟩
  rw [huri, h.resolve_special hplain, readSpecial, if_pos rfl]
  simp

/-- **URIs are read back.**  The URI of a version, by either kind, refers to its path as of its
revision, and that of an item to its path, if it does not begin with the special segment; no path
is read back as the root.  The URIs of the other kinds refer to nothing that can be asked for, but
an id behind that of the activities makes an activity. -/
theorem resolve_uri (h : m.Plain) (revision : Revision) (path : Option String) :
    ((∀ p ∈ path, IsAbsolute p.toList) →
      (∀ kind ∈ [ResourceKind.version, .revisionRoot],
        m.resolve (m.uri (kind.resource revision path)) =
          .ok (.version revision (path.getD "/"))) ∧
      (Percent.encode (first (path.getD "/").toList) ≠ m.special.toList →
        m.resolve (m.uri (ResourceKind.item.resource revision path)) =
          .ok (.item (path.getD "/"))) ∧
      ∀ kind ∈ [ResourceKind.activities, .baseline, .baselineCollection, .configuration],
        m.resolve (m.uri (kind.resource revision path)) = .error .unsupportedForm) ∧
    ∀ id : String, IsPlainName id.toList →
      m.resolve (m.uri (ResourceKind.activities.resource revision path) ++ id) =
        .ok (.activity id) := by
  refine ⟨?_, fun id hid => h.resolve_activity hid⟩
  intro hpath
  have habsolute : IsAbsolute (path.getD "/").toList := by
    cases path with
    | none => exact isAbsolute_slash
    | some p => exact hpath p rfl
  refine ⟨?_, h.resolve_item habsolute, ?_⟩
  · rw [List.forall_mem_cons, List.forall_mem_singleton]
    exact ⟨h.resolve_version revision habsolute, h.resolve_revisionRoot revision habsolute⟩
  · rw [List.forall_mem_cons, List.forall_mem_cons, List.forall_mem_cons,
      List.forall_mem_singleton]
    exact ⟨h.resolve_activities, h.resolve_baseline revision,
      h.resolve_baselineCollection revision habsolute, h.resolve_configuration⟩

/-- Every kind below a root of two names: a path with marks in its names, no path, an activity. -/
theorem resolve_uri_item :
    (⟨"/svn/a%b", "!svn"⟩ : Mount).Plain ∧ IsAbsolute "/100%;ü?/#".toList ∧
      Percent.encode (first "/100%;ü?/#".toList) ≠ "!svn".toList ∧ IsPlainName "a%20b".toList ∧
      Mount.resolve ⟨"/svn/a%b", "!svn"⟩ (Mount.uri ⟨"/svn/a%b", "!svn"⟩
        (ResourceKind.version.resource 7 (some "/100%;ü?/#"))) =
          .ok (.version 7 "/100%;ü?/#") ∧
      Mount.resolve ⟨"/svn/a%b", "!svn"⟩ (Mount.uri ⟨"/svn/a%b", "!svn"⟩
        (ResourceKind.revisionRoot.resource 7 (some "/100%;ü?/#"))) =
          .ok (.version 7 "/100%;ü?/#") ∧
      Mount.resolve ⟨"/svn/a%b", "!svn"⟩ (Mount.uri ⟨"/svn/a%b", "!svn"⟩
        (ResourceKind.item.resource 7 (some "/100%;ü?/#"))) = .ok (.item "/100%;ü?/#") ∧
      Mount.resolve ⟨"/svn/a%b", "!svn"⟩ (Mount.uri ⟨"/svn/a%b", "!svn"⟩
        (ResourceKind.version.resource 7 none)) = .ok (.version 7 "/") ∧
      Mount.resolve ⟨"/svn/a%b", "!svn"⟩ (Mount.uri ⟨"/svn/a%b", "!svn"⟩
        (ResourceKind.activities.resource 7 none)) = .error .unsupportedForm ∧
      Mount.resolve ⟨"/svn/a%b", "!svn"⟩ (Mount.uri ⟨"/svn/a%b", "!svn"⟩
        (ResourceKind.baseline.resource 7 none)) = .error .unsupportedForm ∧
      Mount.resolve ⟨"/svn/a%b", "!svn"⟩ (Mount.uri ⟨"/svn/a%b", "!svn"⟩
        (ResourceKind.baselineCollection.resource 7 none)) = .error .unsupportedForm ∧
      Mount.resolve ⟨"/svn/a%b", "!svn"⟩ (Mount.uri ⟨"/svn/a%b", "!svn"⟩
        (ResourceKind.configuration.resource 7 none)) = .error .unsupportedForm ∧
      Mount.resolve ⟨"/svn/a%b", "!svn"⟩ (Mount.uri ⟨"/svn/a%b", "!svn"⟩
        (ResourceKind.activities.resource 7 none) ++ "a%20b") = .ok (.activity "a%20b") := by
  have hplain : (⟨"/svn/a%b", "!svn"⟩ : Mount).Plain :=
    ⟨.inr ⟨["svn".toList, "a%b".toList], by decide, by decide⟩, by decide⟩
  have habsolute : IsAbsolute "/100%;ü?/#".toList :=
    ⟨["100%;ü?".toList, ['#']], by decide, by decide⟩
  have hfirst : Percent.encode (first "/100%;ü?/#".toList) ≠ "!svn".toList := by decide
  have hid : IsPlainName "a%20b".toList := by decide
  have hpath : ∀ p ∈ some "/100%;ü?/#", IsAbsolute p.toList := by
    rintro p ⟨⟩
    exact habsolute
  obtain ⟨hversions, hitem, -⟩ := (hplain.resolve_uri 7 (some "/100%;ü?/#")).1 hpath
  obtain ⟨hroot, -, hothers⟩ := (hplain.resolve_uri 7 none).1 (by simp)
  exact ⟨hplain, habsolute, hfirst, hid, hversions _ (by simp), hversions _ (by simp),
    hitem hfirst, hroot _ (by simp), hothers _ (by simp), hothers _ (by simp),
    hothers _ (by simp), hothers _ (by simp), (hplain.resolve_uri 7 none).2 _ hid⟩

end Mount.Plain

end DavGateway
