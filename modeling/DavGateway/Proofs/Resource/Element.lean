/-
# Elements around URIs

The element of a resource holds its URI as it stands.  Behind a root and a
special segment without marks of their own, no tag begins in a URI, and an
ampersand in it comes from a path.  There it begins no reference, since the
semicolon that could end one is escaped; so the element has well-formed content
just if no path with an ampersand is in it.

* `Mount.uriChars_eq_append_encodedPath` : the path of a URI is its end.
* `Mount.Unmarked.ampersand_mem_uriChars_iff` : where the ampersands of a URI come from.
* `Mount.href_content` : when the content of an element is well formed.
-/
import DavGateway.Proofs.Markup.Content
import DavGateway.Proofs.Resource.Injective

namespace DavGateway

/-! ## URIs and their paths -/

/-- The path in the URI of a resource, as it stands there. -/
def Resource.encodedPath (r : Resource) : List Char :=
  (r.path?.map fun path => Path.encode path.toList).getD []

namespace Mount

/-- A character that stands in front of the path of a URI: one of the mount, a slash, a letter or
a digit. -/
def FrontChar (m : Mount) (c : Char) : Prop :=
  c ∈ m.root.toList ++ m.special.toList ∨ c = '/' ∨ c.isAlphanum = true

theorem frontChar_base (m : Mount) : ∀ c ∈ m.base, m.FrontChar c := by
  intro c hc
  unfold base at hc
  split at hc
  · cases hc
  · exact .inl (List.mem_append_left _ hc)

/-- The special area and the name of a kind stand in front of a path. -/
theorem frontChar_kind (m : Mount) {kind : List Char}
    (hkind : (kind.all fun c => c = '/' || c.isAlphanum) = true) :
    ∀ c ∈ m.specialArea ++ kind, m.FrontChar c := by
  rw [List.forall_mem_append, specialArea, List.forall_mem_append, List.forall_mem_cons]
  refine ⟨⟨m.frontChar_base, .inr (.inl rfl), fun c hc => .inl (List.mem_append_right _ hc)⟩, ?_⟩
  intro c hc
  exact .inr (by simpa using List.all_eq_true.1 hkind c hc)

/-- So does a revision behind them. -/
theorem frontChar_revision (m : Mount) {kind : List Char}
    (hkind : (kind.all fun c => c = '/' || c.isAlphanum) = true) (revision : Revision) :
    ∀ c ∈ m.specialArea ++ kind ++ revision.digits, m.FrontChar c := by
  rw [List.forall_mem_append]
  refine ⟨m.frontChar_kind hkind, fun c hc => ?_⟩
  have hdigit : c.isDigit = true := Decimal.isDigit_of_mem_digits hc
  exact .inr (.inr (by simp [Char.isAlphanum, hdigit]))

/-- The path of a URI is its end. -/
theorem uriChars_eq_append_encodedPath (m : Mount) (r : Resource) :
    ∃ front, m.uriChars r = front ++ r.encodedPath ∧ ∀ c ∈ front, m.FrontChar c := by
  cases r with
  | activities => exact ⟨_, (List.append_nil _).symm, m.frontChar_kind (by decide)⟩
  | baseline revision =>
    exact ⟨_, (List.append_nil _).symm, m.frontChar_revision (by decide) revision⟩
  | baselineCollection revision path =>
    exact ⟨_, rfl, m.frontChar_revision (by decide) revision⟩
  | item path => exact ⟨_, rfl, m.frontChar_base⟩
  | version revision path => exact ⟨_, rfl, m.frontChar_revision (by decide) revision⟩
  | revisionRoot revision path => exact ⟨_, rfl, m.frontChar_revision (by decide) revision⟩
  | configuration => exact ⟨_, (List.append_nil _).symm, m.frontChar_kind (by decide)⟩

/-! ## Marks in URIs -/

/-- A mount whose root and special segment have no marks of markup in them. -/
def Unmarked (m : Mount) : Prop :=
  ∀ c ∈ m.root.toList ++ m.special.toList, c ≠ '<' ∧ c ≠ '>' ∧ c ≠ '&'

instance (m : Mount) : Decidable m.Unmarked := List.decidableBAll _ _

variable {m : Mount}

/-- The marks of markup do not stand in front of a path. -/
theorem Unmarked.exists_front (h : m.Unmarked) (r : Resource) :
    ∃ front, m.uriChars r = front ++ r.encodedPath ∧
      ∀ c ∈ front, c ≠ '<' ∧ c ≠ '>' ∧ c ≠ '&' := by
  obtain ⟨front, huri, hfront⟩ := m.uriChars_eq_append_encodedPath r
  refine ⟨front, huri, fun c hc => ?_⟩
  rcases hfront c hc with hmount | rfl | halphanum
  · exact h c hmount
  · decide
  · refine ⟨?_, ?_, ?_⟩
    · rintro rfl
      exact absurd halphanum (by decide)
    · rintro rfl
      exact absurd halphanum (by decide)
    · rintro rfl
      exact absurd halphanum (by decide)

/-- What is not in the alphabet of encoded segments does not stand in the path of a URI. -/
theorem not_mem_encodedPath {c : Char} (hc : c ≠ '/') (hwritten : Percent.isWritten c = false)
    (r : Resource) : c ∉ r.encodedPath := by
  unfold Resource.encodedPath
  cases r.path? with
  | none => exact List.not_mem_nil
  | some path => exact Path.not_mem_encode hc hwritten path.toList

/-- No tag begins in a URI, and none ends. -/
theorem Unmarked.angle_not_mem_uriChars (h : m.Unmarked) (r : Resource) :
    '<' ∉ m.uriChars r ∧ '>' ∉ m.uriChars r := by
  obtain ⟨front, huri, hfront⟩ := h.exists_front r
  rw [huri, List.mem_append, List.mem_append]
  constructor
  · rintro (hmem | hmem)
    · exact (hfront _ hmem).1 rfl
    · exact not_mem_encodedPath (by decide) (by decide) r hmem
  · rintro (hmem | hmem)
    · exact (hfront _ hmem).2.1 rfl
    · exact not_mem_encodedPath (by decide) (by decide) r hmem

/-- An ampersand in a URI is one of its path. -/
theorem Unmarked.ampersand_mem_uriChars_iff (h : m.Unmarked) (r : Resource) :
    '&' ∈ m.uriChars r ↔ ∃ path ∈ r.path?, '&' ∈ path.toList := by
  obtain ⟨front, huri, hfront⟩ := h.exists_front r
  have hnone : '&' ∉ front := fun hmem => (hfront _ hmem).2.2 rfl
  rw [huri, List.mem_append, or_iff_right hnone, Resource.encodedPath]
  cases r.path? with
  | none => simp
  | some path => simpa using Path.mark_mem_encode_iff (by decide)

/-- A URI has no references in it: behind an ampersand there is only path, and no semicolon. -/
theorem Unmarked.unreferenced_uriChars (h : m.Unmarked) (r : Resource) :
    Markup.Unreferenced (m.uriChars r) := by
  intro front back hcut
  obtain ⟨start, huri, hstart⟩ := h.exists_front r
  -- the ampersand stands in the path, so what is behind it is of the path too
  have hpath : '&' :: back <:+ r.encodedPath := by
    rw [huri] at hcut
    rcases List.append_eq_append_iff.1 hcut with ⟨middle, -, hpath⟩ | ⟨middle, hfront, hback⟩
    · exact ⟨middle, hpath.symm⟩
    · cases middle with
      | nil => exact ⟨[], hback⟩
      | cons c middle =>
        obtain ⟨rfl, -⟩ := List.cons.inj hback
        exact absurd rfl (hstart '&' (by rw [hfront]; simp)).2.2
  intro hmem
  exact not_mem_encodedPath (by decide) (by decide) r
    (hpath.subset (List.mem_cons_of_mem _ hmem))

end Mount

/-! ## The element of a resource -/

/-- The path of a resource of a kind, if the kind has one. -/
theorem ResourceKind.mem_path?_resource_iff (kind : ResourceKind) (revision : Revision)
    (path : Option String) {text : String} :
    text ∈ (kind.resource revision path).path? ↔ kind.hasPath = true ∧ path.getD "/" = text := by
  cases kind with
  | item | baselineCollection | version | revisionRoot => simp [resource, Resource.path?, hasPath]
  | activities | baseline | configuration => simp [resource, Resource.path?, hasPath]

/-- **Elements around URIs.**  On a mount without marks of markup the element of a resource is its
URI between two tags.  No tag begins or ends in it, and read as content it is the URI again; but it
is well-formed content only if no path with an ampersand is in it. -/
theorem Mount.href_content {m : Mount} (h : m.Unmarked) (kind : ResourceKind)
    (revision : Revision) (path : Option String) :
    let r := kind.resource revision path
    m.href r = "<D:href>" ++ m.uri r ++ "</D:href>" ∧
      '<' ∉ (m.uri r).toList ∧ '>' ∉ (m.uri r).toList ∧
      Markup.unescape (m.uri r).toList = (m.uri r).toList ∧
      (Markup.IsContent (m.uri r).toList ↔
        ¬ (kind.hasPath = true ∧ '&' ∈ (path.getD "/").toList)) := by
  intro r
  obtain ⟨hlt, hgt⟩ := h.angle_not_mem_uriChars r
  have hampersand : '&' ∈ m.uriChars r ↔ kind.hasPath = true ∧ '&' ∈ (path.getD "/").toList := by
    rw [h.ampersand_mem_uriChars_iff r]
    simp [r, kind.mem_path?_resource_iff, and_assoc]
  have hunreferenced := h.unreferenced_uriChars r
  rw [uri, String.toList_ofList, ← hampersand]
  exact ⟨rfl, hlt, hgt, hunreferenced.unescape_eq, hunreferenced.isContent_iff hlt⟩

/-- A version whose path has other marks of markup is a well-formed element. -/
theorem Mount.href_content_version :
    let m : Mount := ⟨"/repos", "!svn"⟩
    let r := ResourceKind.version.resource 7 (some "/a<b>\"c;")
    m.Unmarked ∧ Markup.IsContent (m.uri r).toList ∧
      Markup.unescape (m.uri r).toList = (m.uri r).toList := by
  intro m r
  have hunmarked : m.Unmarked := by decide
  obtain ⟨-, -, -, hread, hcontent⟩ := href_content hunmarked .version 7 (some "/a<b>\"c;")
  refine ⟨hunmarked, hcontent.2 ?_, hread⟩
  rintro ⟨-, hampersand⟩
  exact absurd hampersand (by decide)

/-- An ampersand of a path stands in the element as it is, and begins no reference. -/
theorem Mount.href_ampersand :
    let m : Mount := ⟨"/", "!svn"⟩
    m.Unmarked ∧ m.href (.item "/a&b") = "<D:href>/a&b</D:href>" ∧
      ¬ Markup.IsContent "/a&b".toList := by
  intro m
  have huri : m.uri (.item "/a&b") = "/a&b" := by
    rw [uri, show m.uriChars (.item "/a&b") = "/a&b".toList by decide, String.ofList_toList]
  refine ⟨by decide, ?_, ?_⟩
  · rw [href, huri]
    rfl
  · intro hcontent
    obtain ⟨name, rest, -, hback⟩ := hcontent.reference ['/', 'a'] ['b'] (by decide)
    have hsemicolon : ';' ∈ ['b'] := by
      rw [hback]
      simp
    exact absurd hsemicolon (by decide)

end DavGateway
