/-
# Different resources have different URIs

Below the base of a mount a URI is cut into segments at its slashes, and from
the segments the resource is found again: its kind from the one behind the
special segment, then its revision and its path.  So no two resources share a
URI, also where a request URI does not tell them apart.

* `Mount.uriChars_eq` : the segments of the URI of a resource.
* `Mount.resource?_uriSegments` : the resource is read off them.
* `Settings.uri_injective` : a URI determines its resource.
-/
import DavGateway.Proofs.Path.Encoding
import DavGateway.Settings

open DavGateway.Path

namespace DavGateway

/-! ## Rooted paths -/

namespace Path

/-- A path that begins with one slash and not with two. -/
def IsRooted (path : List Char) : Prop := ∃ rest, path = '/' :: rest ∧ rest.head? ≠ some '/'

/-- The segments of a path as they stand in a URI. -/
def encodedSegments (path : List Char) : List (List Char) :=
  (segments (path.dropWhile (· = '/'))).map Percent.encode

/-- The path whose segments stand in a URI. -/
def ofEncodedSegments (segs : List (List Char)) : List Char :=
  join (segs.map fun seg => (Percent.decode? seg).getD [])

theorem isRooted_slash : IsRooted ['/'] := ⟨[], rfl, by simp⟩

/-- The slash of a rooted path is taken off, and nothing else. -/
theorem encodedSegments_cons {rest : List Char} (h : rest.head? ≠ some '/') :
    encodedSegments ('/' :: rest) = (segments rest).map Percent.encode := by
  have hkeep : rest.dropWhile (· = '/') = rest := by
    cases rest with
    | nil => rfl
    | cons c rest =>
      have hc : c ≠ '/' := by simpa using h
      simp [hc]
  have hdrop : ('/' :: rest).dropWhile (· = '/') = rest.dropWhile (· = '/') := by simp
  rw [encodedSegments, hdrop, hkeep]

/-- A rooted path is read back from its encoded segments. -/
theorem ofEncodedSegments_encodedSegments {path : List Char} (h : IsRooted path) :
    ofEncodedSegments (encodedSegments path) = path := by
  obtain ⟨rest, rfl, hrest⟩ := h
  have hread : (fun seg => (Percent.decode? seg).getD []) ∘ Percent.encode = id := by
    funext seg
    simp [Percent.decode?_encode]
  rw [encodedSegments_cons hrest, ofEncodedSegments, List.map_map, hread, List.map_id,
    join_segments]

/-- The encoded segments of a rooted path begin with its first segment. -/
theorem encodedSegments_eq_cons {path : List Char} (h : IsRooted path) :
    ∃ more, encodedSegments path = Percent.encode (first path) :: more := by
  obtain ⟨rest, rfl, hrest⟩ := h
  obtain ⟨seg, segs, hsegs⟩ := List.exists_cons_of_ne_nil (segments_ne_nil rest)
  refine ⟨segs.map Percent.encode, ?_⟩
  rw [encodedSegments_cons hrest, first, segments_slash_cons, List.drop_one, List.tail_cons, hsegs,
    List.headD_cons, List.map_cons]

/-- No encoded segment has a slash in it. -/
theorem slash_not_mem_of_mem_encodedSegments {path seg : List Char}
    (h : seg ∈ encodedSegments path) : '/' ∉ seg := by
  obtain ⟨s, -, rfl⟩ := List.mem_map.1 h
  exact Percent.not_mem_encode (by decide) s

end Path

/-! ## The segments of URIs -/

namespace Mount

/-- The segments of the URI of a resource, below the base of the mount. -/
def uriSegments (m : Mount) : Resource → List (List Char)
  | .activities => [m.special.toList, "act".toList, []]
  | .baseline revision => [m.special.toList, "bln".toList, revision.digits]
  | .baselineCollection revision path =>
    m.special.toList :: "bc".toList :: revision.digits :: encodedSegments path.toList
  | .item path => encodedSegments path.toList
  | .version revision path =>
    m.special.toList :: "ver".toList :: revision.digits :: encodedSegments path.toList
  | .revisionRoot revision path =>
    m.special.toList :: "rvr".toList :: revision.digits :: encodedSegments path.toList
  | .configuration => [m.special.toList, "vcc".toList, "default".toList]

/-- The URI of a resource is its segments behind the base. -/
theorem uriChars_eq (m : Mount) (r : Resource) :
    m.uriChars r = m.base ++ join (m.uriSegments r) := by
  cases r with
  | item path => rfl
  | activities => simp [uriChars, uriSegments, specialArea]
  | baseline revision => simp [uriChars, uriSegments, specialArea]
  | baselineCollection revision path =>
    simp [uriChars, uriSegments, specialArea, Path.encode, encodedSegments]
  | version revision path =>
    simp [uriChars, uriSegments, specialArea, Path.encode, encodedSegments]
  | revisionRoot revision path =>
    simp [uriChars, uriSegments, specialArea, Path.encode, encodedSegments]
  | configuration => simp [uriChars, uriSegments, specialArea]

/-- No segment of a URI has a slash in it. -/
theorem slash_not_mem_of_mem_uriSegments {m : Mount} (h : '/' ∉ m.special.toList) (r : Resource) :
    ∀ s ∈ m.uriSegments r, '/' ∉ s := by
  have hdigits : ∀ revision : Revision, '/' ∉ revision.digits := fun revision =>
    (isPlainName_digits revision).1.2.2.2
  have hpath : ∀ path : List Char, ∀ s ∈ encodedSegments path, '/' ∉ s := fun path s hs =>
    slash_not_mem_of_mem_encodedSegments hs
  cases r with
  | item path => exact hpath _
  | activities => simp [uriSegments, h]
  | baseline revision => simp [uriSegments, h, hdigits]
  | baselineCollection revision path => simpa [uriSegments, h, hdigits] using hpath _
  | version revision path => simpa [uriSegments, h, hdigits] using hpath _
  | revisionRoot revision path => simpa [uriSegments, h, hdigits] using hpath _
  | configuration => simp [uriSegments, h]

/-! ## Reading resources -/

/-- The resource of a kind that carries a revision, from the segments behind the kind. -/
def versionedResource? (kind : List Char) : List (List Char) → Option Resource
  | [] => none
  | digits :: path =>
    let path := String.ofList (ofEncodedSegments path)
    (Revision.ofDigits? digits).bind fun revision =>
      if kind = "bln".toList then some (.baseline revision)
      else if kind = "bc".toList then some (.baselineCollection revision path)
      else if kind = "ver".toList then some (.version revision path)
      else if kind = "rvr".toList then some (.revisionRoot revision path)
      else none

/-- The resource whose URI has the given segments behind the special one. -/
def specialResource? : List (List Char) → Option Resource
  | [] => none
  | kind :: rest =>
    if kind = "act".toList then some .activities
    else if kind = "vcc".toList then some .configuration
    else versionedResource? kind rest

/-- The resource whose URI has the given segments below the base. -/
def resource? (m : Mount) : List (List Char) → Option Resource
  | [] => none
  | first :: rest =>
    if first = m.special.toList then specialResource? rest
    else some (.item (String.ofList (ofEncodedSegments (first :: rest))))

/-- A resource that a URI stands for alone: its path begins with one slash, and that of an item
not with the special segment. -/
def Admits (m : Mount) : Resource → Prop
  | .item path => IsRooted path.toList ∧ Percent.encode (first path.toList) ≠ m.special.toList
  | .baselineCollection _ path | .version _ path | .revisionRoot _ path => IsRooted path.toList
  | .activities | .baseline _ | .configuration => True

/-- A resource is read off the segments of its URI. -/
theorem resource?_uriSegments {m : Mount} {r : Resource} (h : m.Admits r) :
    m.resource? (m.uriSegments r) = some r := by
  have hread : ∀ {path : String}, IsRooted path.toList →
      String.ofList (ofEncodedSegments (encodedSegments path.toList)) = path := by
    intro path hpath
    rw [ofEncodedSegments_encodedSegments hpath, String.ofList_toList]
  cases r with
  | item path =>
    obtain ⟨more, hmore⟩ := encodedSegments_eq_cons h.1
    rw [uriSegments, hmore, resource?, if_neg h.2, ← hmore, hread h.1]
  | activities => simp [uriSegments, resource?, specialResource?]
  | configuration => simp [uriSegments, resource?, specialResource?]
  | baseline revision =>
    simp [uriSegments, resource?, specialResource?, versionedResource?, Revision.ofDigits?_digits]
  | baselineCollection revision path | version revision path | revisionRoot revision path =>
    simp [uriSegments, resource?, specialResource?, versionedResource?, Revision.ofDigits?_digits,
      hread h]

/-- Resources that URIs stand for alone have different URIs. -/
theorem eq_of_uriChars_eq {m : Mount} (hspecial : '/' ∉ m.special.toList) {r r' : Resource}
    (h : m.Admits r) (h' : m.Admits r') (huri : m.uriChars r = m.uriChars r') : r = r' := by
  rw [uriChars_eq, uriChars_eq, List.append_cancel_left_eq] at huri
  -- joined segments are cut out at the slashes again
  have hsegs := congrArg segments huri
  rw [segments_join (slash_not_mem_of_mem_uriSegments hspecial r),
    segments_join (slash_not_mem_of_mem_uriSegments hspecial r'), List.cons_inj_right] at hsegs
  have hread := congrArg m.resource? hsegs
  rw [resource?_uriSegments h, resource?_uriSegments h'] at hread
  exact Option.some.inj hread

/-- An element refers to the same resource as the URI in it. -/
theorem href_inj {m : Mount} {r r' : Resource} : m.href r = m.href r' ↔ m.uri r = m.uri r' := by
  constructor
  · intro h
    have hchars := congrArg String.toList h
    simp only [href, String.toList_append, List.append_cancel_left_eq,
      List.append_cancel_right_eq] at hchars
    exact String.toList_inj.1 hchars
  · intro h
    rw [href, href, h]

end Mount

/-! ## Kinds and what they carry -/

/-- The kind of a resource. -/
def Resource.kind : Resource → ResourceKind
  | .activities => .activities
  | .baseline _ => .baseline
  | .baselineCollection .. => .baselineCollection
  | .item _ => .item
  | .version .. => .version
  | .revisionRoot .. => .revisionRoot
  | .configuration => .configuration

/-- The path in the URI of a resource. -/
def Resource.path? : Resource → Option String
  | .item path | .baselineCollection _ path | .version _ path | .revisionRoot _ path => some path
  | .activities | .baseline _ | .configuration => none

/-- The revision in the URI of a resource. -/
def Resource.revision? : Resource → Option Revision
  | .baseline revision | .baselineCollection revision _ | .version revision _
  | .revisionRoot revision _ => some revision
  | .activities | .item _ | .configuration => none

namespace ResourceKind

/-- Whether the URIs of a kind carry a path. -/
def hasPath : ResourceKind → Bool
  | item | baselineCollection | version | revisionRoot => true
  | activities | baseline | configuration => false

/-- Whether the URIs of a kind carry a revision. -/
def hasRevision : ResourceKind → Bool
  | baseline | baselineCollection | version | revisionRoot => true
  | activities | item | configuration => false

variable (kind : ResourceKind) (revision : Revision) (path : Option String)

@[simp] theorem kind_resource : (kind.resource revision path).kind = kind := by
  cases kind <;> rfl

theorem path?_resource (h : kind.hasPath = true) :
    (kind.resource revision path).path? = some (path.getD "/") := by
  cases kind with
  | item | baselineCollection | version | revisionRoot => rfl
  | activities | baseline | configuration => cases h

theorem revision?_resource (h : kind.hasRevision = true) :
    (kind.resource revision path).revision? = some revision := by
  cases kind with
  | baseline | baselineCollection | version | revisionRoot => rfl
  | activities | item | configuration => cases h

end ResourceKind

/-- A URI of the kind with the path stands for one resource alone. -/
theorem Mount.admits_resource {m : Mount} {kind : ResourceKind} {path : Option String}
    (hpath : ∀ p ∈ path, IsRooted p.toList)
    (hitem : kind = .item → Percent.encode (first (path.getD "/").toList) ≠ m.special.toList)
    (revision : Revision) : m.Admits (kind.resource revision path) := by
  have hrooted : IsRooted (path.getD "/").toList := by
    cases path with
    | none => exact isRooted_slash
    | some p => exact hpath p rfl
  cases kind with
  | item => exact ⟨hrooted, hitem rfl⟩
  | baselineCollection | version | revisionRoot => exact hrooted
  | activities | baseline | configuration => trivial

/-- **No two resources share a URI.**  Under settings that pass the check, resources with the same
URI, or the same element, are of one kind, and have the same path and revision if their kind carries
them.  Paths begin with one slash, and that of an item not with the special segment. -/
theorem Settings.uri_injective (s : Settings) {kind kind' : ResourceKind}
    {revision revision' : Revision} {path path' : Option String}
    (hpath : ∀ p ∈ path, IsRooted p.toList) (hpath' : ∀ p ∈ path', IsRooted p.toList)
    (hitem : kind = .item →
      Percent.encode (first (path.getD "/").toList) ≠ s.mount.special.toList)
    (hitem' : kind' = .item →
      Percent.encode (first (path'.getD "/").toList) ≠ s.mount.special.toList)
    (huri : s.mount.uri (kind.resource revision path) =
        s.mount.uri (kind'.resource revision' path') ∨
      s.mount.href (kind.resource revision path) =
        s.mount.href (kind'.resource revision' path')) :
    kind = kind' ∧ (kind.hasPath = true → path.getD "/" = path'.getD "/") ∧
      (kind.hasRevision = true → revision = revision') := by
  rw [Mount.href_inj, or_self, Mount.uri, Mount.uri, String.ofList_inj] at huri
  have hsame := Mount.eq_of_uriChars_eq s.mount_valid.2.2.2 (Mount.admits_resource hpath hitem _)
    (Mount.admits_resource hpath' hitem' _) huri
  have hkind : kind = kind' := by
    simpa using congrArg Resource.kind hsame
  subst hkind
  refine ⟨rfl, fun hcarries => ?_, fun hcarries => ?_⟩
  · have hpaths := congrArg Resource.path? hsame
    rw [kind.path?_resource _ _ hcarries, kind.path?_resource _ _ hcarries] at hpaths
    exact Option.some.inj hpaths
  · have hrevisions := congrArg Resource.revision? hsame
    rw [kind.revision?_resource _ _ hcarries, kind.revision?_resource _ _ hcarries] at hrevisions
    exact Option.some.inj hrevisions

/-- An item with empty segments and marks in its path; its URI does not carry the revision. -/
theorem Settings.uri_injective_item :
    ∃ s : Settings, ({ root := "/repos/" } : Settings.Draft).check = .ok s ∧
      IsRooted "/a//;ü/".toList ∧ Percent.encode (first "/a//;ü/".toList) ≠ s.mount.special.toList ∧
      s.mount.href (ResourceKind.item.resource 7 (some "/a//;ü/")) =
        s.mount.href (ResourceKind.item.resource 8 (some "/a//;ü/")) ∧
      ResourceKind.item = ResourceKind.item ∧
      (ResourceKind.item.hasPath = true →
        (some "/a//;ü/").getD "/" = (some "/a//;ü/").getD "/") ∧
      (ResourceKind.item.hasRevision = true → (7 : Revision) = 8) := by
  obtain ⟨s, hcheck, hmount⟩ : ∃ s : Settings, ({ root := "/repos/" } : Settings.Draft).check = .ok s ∧
      s.mount = ⟨"/repos", "!svn"⟩ := ⟨_, rfl, rfl⟩
  have hrooted : IsRooted "/a//;ü/".toList := ⟨"a//;ü/".toList, by decide, by decide⟩
  have hfirst : Percent.encode (first "/a//;ü/".toList) ≠ s.mount.special.toList := by
    rw [hmount]
    decide
  have hpath : ∀ p ∈ some "/a//;ü/", IsRooted p.toList := by
    intro p hp
    cases hp
    exact hrooted
  refine ⟨s, hcheck, hrooted, hfirst, rfl, ?_⟩
  exact s.uri_injective hpath hpath (fun _ => hfirst) (fun _ => hfirst) (.inr rfl)

end DavGateway
