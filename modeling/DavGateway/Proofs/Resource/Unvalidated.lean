/-
# Mounts and URIs that nobody has checked

A request URI may be resolved on any mount: its root and its special segment may
be empty, have slashes in them or end in one, and the grammar of absolute URIs
may be any.  Resolution slices texts by bytes; `Mount.resolveBy?` takes a slice
only where there is one, and never comes to a place where there is none, because
what follows a path that another begins with is nothing or begins with a slash.
What is found then lies under the root, however many `..` the URI has.

* `afterBytes?_eq_some_iff` : when a text has a slice.
* `Mount.locate?_eq` : checked slices are there, and make no difference.
* `Mount.resolveBy?_sound` : what is known of every answer.
-/
import DavGateway.Proofs.Path.Canonical
import DavGateway.Proofs.Resource.DotSegments

open DavGateway.Path

namespace DavGateway

/-! ## Slices -/

/-- What stands behind the first `n` bytes of a text.  There is nothing to be had if it has not so
many bytes, or if a character lies across the place. -/
def Utf8.afterBytes? : Nat → List Char → Option (List Char)
  | 0, s => some s
  | _ + 1, [] => none
  | n + 1, c :: s => if c.utf8Size ≤ n + 1 then afterBytes? (n + 1 - c.utf8Size) s else none

theorem Utf8.length_encode_cons (c : Char) (s : List Char) :
    (encode (c :: s)).length = c.utf8Size + (encode s).length := by
  rw [encode, List.flatMap_cons, List.length_append, String.length_utf8EncodeChar, ← encode]

/-- A slice is what stands behind some characters that have just so many bytes. -/
theorem Utf8.afterBytes?_eq_some_iff {n : Nat} {s rest : List Char} :
    afterBytes? n s = some rest ↔ ∃ front, s = front ++ rest ∧ (encode front).length = n := by
  constructor
  · intro h
    fun_induction afterBytes? n s with
    | case1 s =>
      obtain rfl := Option.some.inj h
      exact ⟨[], rfl, rfl⟩
    | case2 n => cases h
    | case3 n c s hsize ih =>
      obtain ⟨front, rfl, hlength⟩ := ih h
      exact ⟨c :: front, rfl, by rw [length_encode_cons, hlength]; omega⟩
    | case4 n c s hsize => cases h
  · rintro ⟨front, rfl, rfl⟩
    induction front with
    | nil => simp [afterBytes?]
    | cons c front ih =>
      have hpos := c.utf8Size_pos
      obtain ⟨n, hn⟩ : ∃ n, c.utf8Size + (encode front).length = n + 1 :=
        ⟨c.utf8Size + (encode front).length - 1, by omega⟩
      have hbehind : n + 1 - c.utf8Size = (encode front).length := by omega
      rw [length_encode_cons, hn, List.cons_append, afterBytes?, if_pos (by omega), hbehind, ih]

/-! ## Resolution with checked slices -/

/-- The path that a request URI asks for, by any grammar for the URIs that are not plain paths. -/
def requestPathBy? (strict : List Char → Option (List Char)) (uri : List Char) :
    Option (List Char) :=
  let uri := uri.takeWhile (· ≠ '#')
  match uri with
  | '/' :: _ => some (uri.takeWhile (· ≠ '?'))
  | _ => strict uri

/-- The target in the special area, unless a slice is not there. -/
def specialTarget? (rest : List Char) : Option (Except UriError Target) :=
  if (Utf8.encode rest).length ≤ 1 then some (.error .unsupportedForm)
  else
    (Utf8.afterBytes? 1 rest).map fun below =>
      match Cut.atFirst? '/' below with
      | none => .error .unsupportedForm
      | some (kind, rest) =>
        if rest = [] then .error .unsupportedForm
        else if kind = "act".toList then .ok (.activity (String.ofList rest))
        else if kind = "ver".toList ∨ kind = "rvr".toList then versionTarget rest
        else .error .unsupportedForm

/-- The target of a path in normal form, unless a slice is not there. -/
def Mount.locate? (m : Mount) (path : List Char) : Option (Except UriError Target) :=
  match Path.after? m.base path with
  | none => some (.error .outsideMount)
  | some rest =>
    if (Utf8.encode rest).length ≤ 1 then some (.ok (.item "/"))
    else
      (Utf8.afterBytes? 1 rest).bind fun below =>
        match Path.after? m.special.toList below with
        | none => some ((decodePath rest).map .item)
        | some special => specialTarget? special

/-- The target of a request URI, unless a slice is not there. -/
def Mount.resolveBy? (strict : List Char → Option (List Char)) (m : Mount) (uri : String) :
    Option (Except UriError Target) :=
  match requestPathBy? strict uri.toList with
  | none => some (.error .unparsable)
  | some path => m.locate? (Path.normalize path)

/-! ## The slices are there -/

/-- What follows a path that another begins with can follow a segment. -/
theorem Path.boundary_of_after? {start path rest : List Char}
    (h : Path.after? start path = some rest) : Boundary rest := (after?_eq_some_iff.1 h).2

/-- Of what can follow a segment, only nothing and a slash have at most one byte. -/
theorem Path.Boundary.length_encode_le_one_iff {rest : List Char} (h : Boundary rest) :
    (Utf8.encode rest).length ≤ 1 ↔ rest.drop 1 = [] := by
  rcases h.eq_nil_or_cons with rfl | ⟨path, rfl⟩
  · simp
  · have hslash : '/'.utf8Size = 1 := by decide
    rw [Utf8.length_encode_cons, hslash, List.drop_one, List.tail_cons, ← Utf8.encode_eq_nil_iff,
      ← List.length_eq_zero_iff]
    omega

/-- The slash that it begins with can be cut off. -/
theorem Path.Boundary.afterBytes?_one {rest : List Char} (h : Boundary rest) (hne : rest.drop 1 ≠ []) :
    Utf8.afterBytes? 1 rest = some (rest.drop 1) := by
  rcases h.eq_nil_or_cons with rfl | ⟨path, rfl⟩
  · exact absurd rfl hne
  · exact Utf8.afterBytes?_eq_some_iff.2 ⟨['/'], rfl, rfl⟩

/-- In the special area every slice is there. -/
theorem specialTarget?_eq {rest : List Char} (h : Boundary rest) :
    specialTarget? rest = some (specialTarget rest) := by
  unfold specialTarget?
  simp only [h.length_encode_le_one_iff]
  split
  · next hnil => rw [specialTarget, hnil]; rfl
  · next hne => rw [h.afterBytes?_one hne]; rfl

/-- Every slice is there, and nothing depends on its being checked. -/
theorem Mount.locate?_eq (m : Mount) (path : List Char) :
    m.locate? path = some (m.locate path) := by
  cases hrest : Path.after? m.base path with
  | none => simp only [locate?, locate, hrest]
  | some rest =>
    have hboundary := boundary_of_after? hrest
    simp only [locate?, locate, hrest, hboundary.length_encode_le_one_iff]
    by_cases hnil : rest.drop 1 = []
    · rw [if_pos hnil, if_pos hnil]
    · rw [if_neg hnil, if_neg hnil, hboundary.afterBytes?_one hnil, Option.bind_some]
      cases hspecial : Path.after? m.special.toList (rest.drop 1) with
      | none => rfl
      | some special => exact specialTarget?_eq (boundary_of_after? hspecial)

/-- By the grammar of the gateway the answer is the target of the URI. -/
theorem Mount.resolveBy?_path? (m : Mount) (uri : String) :
    m.resolveBy? Uri.path? uri = some (m.resolve uri) := by
  have hpath : requestPathBy? Uri.path? uri.toList = requestPath? uri.toList := rfl
  rw [resolveBy?, resolve, hpath]
  cases requestPath? uri.toList with
  | none => rfl
  | some path => exact m.locate?_eq _

/-! ## What is found -/

/-- What every target is: its path is rooted, it is not of two sorts, and an activity has an id and
stands at the root. -/
structure Target.Coherent (t : Target) : Prop where
  rooted : t.path.toList.head? = some '/'
  one_sort : t.revision? = none ∨ t.activity? = none
  activity : ∀ id, t.activity? = some id → id ≠ "" ∧ t.path = "/"

theorem Target.coherent_item {path : String} (h : path.toList.head? = some '/') :
    (Target.item path).Coherent :=
  ⟨h, .inl rfl, fun _ hid => nomatch hid⟩

theorem Target.coherent_version (revision : Revision) {path : String}
    (h : path.toList.head? = some '/') : (Target.version revision path).Coherent :=
  ⟨h, .inr rfl, fun _ hid => nomatch hid⟩

theorem Target.coherent_activity {id : String} (h : id ≠ "") : (Target.activity id).Coherent :=
  ⟨by simp [path], .inl rfl, fun _ hid => ⟨Option.some.inj hid ▸ h, rfl⟩⟩

/-- A path that is decoded behind a slash has that slash. -/
theorem head?_of_decodePath {rest : List Char} {path : String}
    (h : decodePath ('/' :: rest) = .ok path) : path.toList.head? = some '/' := by
  rw [decodePath, Percent.decode?_slash_cons] at h
  cases hrest : Percent.decode? rest with
  | none => simp [hrest] at h
  | some text =>
    obtain rfl : String.ofList ('/' :: text) = path := by simpa [hrest] using h
    simp

theorem coherent_of_versionTarget {rest : List Char} {target : Target}
    (h : versionTarget rest = .ok target) : target.Coherent := by
  unfold versionTarget at h
  split at h
  · obtain ⟨revision, -, rfl⟩ := map_eq_ok_iff.1 h
    exact Target.coherent_version revision rfl
  · split at h
    · cases h
    · next revision _ =>
      obtain ⟨path, hpath, rfl⟩ := map_eq_ok_iff.1 h
      exact Target.coherent_version revision (head?_of_decodePath hpath)

theorem coherent_of_specialTarget {rest : List Char} {target : Target}
    (h : specialTarget rest = .ok target) : target.Coherent := by
  unfold specialTarget at h
  split at h
  · cases h
  · next kind id _ =>
    split at h
    · cases h
    · next hne =>
      split at h
      · cases h
        exact Target.coherent_activity (by simpa [← String.toList_inj] using hne)
      split at h
      · exact coherent_of_versionTarget h
      · cases h

theorem Mount.coherent_of_locate {m : Mount} {path : List Char} {target : Target}
    (h : m.locate path = .ok target) : target.Coherent := by
  unfold locate at h
  split at h
  · cases h
  · next rest hrest =>
    split at h
    · cases h
      exact Target.coherent_item rfl
    · next hne =>
      split at h
      · obtain ⟨text, htext, rfl⟩ := map_eq_ok_iff.1 h
        -- what is decoded begins with the slash that ends the root
        rcases (boundary_of_after? hrest).eq_nil_or_cons with rfl | ⟨below, rfl⟩
        · exact absurd rfl hne
        · exact Target.coherent_item (head?_of_decodePath htext)
      · exact coherent_of_specialTarget h

/-- What is located lies under the base of the mount. -/
theorem Mount.under_base_of_locate {m : Mount} {path : List Char} {target : Target}
    (h : m.locate path = .ok target) : path = m.base ∨ m.base ++ ['/'] <+: path := by
  unfold locate at h
  split at h
  · cases h
  · next rest hrest =>
    obtain ⟨rfl, hboundary⟩ := after?_eq_some_iff.1 hrest
    rcases Boundary.eq_nil_or_cons hboundary with rfl | ⟨below, rfl⟩
    · exact .inl (List.append_nil _)
    · exact .inr ⟨below, by simp⟩

/-- **Nothing escapes an unchecked mount.**  On any mount, for any URI and by any grammar of absolute
URIs, every slice that resolution takes is there.  A target that is found has a rooted path, is not
of two sorts, and is an activity only with an id and at the root; and the normal form of the path
that was asked for, which has no dot segments, is the base of the mount or continues it with a
slash. -/
theorem Mount.resolveBy?_sound (m : Mount) (strict : List Char → Option (List Char))
    (uri : String) :
    m.resolveBy? Uri.path? uri = some (m.resolve uri) ∧
      ∃ answer, m.resolveBy? strict uri = some answer ∧
        ∀ target, answer = .ok target →
          target.Coherent ∧
          ∃ path, requestPathBy? strict uri.toList = some path ∧ IsResolved (normalize path) ∧
            (normalize path = m.base ∨ m.base ++ ['/'] <+: normalize path) := by
  refine ⟨m.resolveBy?_path? uri, ?_⟩
  unfold resolveBy?
  cases requestPathBy? strict uri.toList with
  | none => exact ⟨_, rfl, fun target h => nomatch h⟩
  | some path =>
    exact ⟨_, m.locate?_eq _, fun target h =>
      ⟨coherent_of_locate h, path, rfl, isResolved_normalize path, under_base_of_locate h⟩⟩

/-- Any text but none is the id of an activity. -/
theorem specialTarget_activity {id : List Char} (hne : id ≠ []) :
    specialTarget ('/' :: ("act".toList ++ '/' :: id)) = .ok (.activity (String.ofList id)) := by
  have hkind : '/' ∉ "act".toList := by decide
  simp only [specialTarget, List.drop_one, List.tail_cons, Cut.atFirst?_append hkind, if_neg hne,
    if_true]

/-- What stands behind root and special segment is read in the special area. -/
theorem Mount.locate_special {m : Mount} {path below rest : List Char}
    (hroot : Path.after? m.base path = some ('/' :: below)) (hne : below ≠ [])
    (hspecial : Path.after? m.special.toList below = some rest) :
    m.locate path = specialTarget rest := by
  simp only [locate, hroot, List.drop_one, List.tail_cons, if_neg hne, hspecial]

/-- An activity on a mount whose root and special segment have slashes in them, and a URI that
climbs out of its root. -/
theorem Mount.resolveBy?_sound_two_segments :
    let m : Mount := ⟨"/a/é", "x/y"⟩
    m.resolveBy? Uri.path? "/../a//é/x/./y/act/i%2e/" = some (.ok (.activity "i%2e/")) ∧
      (Target.activity "i%2e/").Coherent ∧
      m.base ++ ['/'] <+: "/a/é/x/y/act/i%2e/".toList ∧
      m.resolveBy? Uri.path? "/a/é/../../b" = some (.error .outsideMount) := by
  intro m
  have hpath : requestPath? "/../a//é/x/./y/act/i%2e/".toList =
      some "/../a//é/x/./y/act/i%2e/".toList := by
    decide
  have hnormal : normalize "/../a//é/x/./y/act/i%2e/".toList = "/a/é/x/y/act/i%2e/".toList := by
    decide
  have hinside : m.resolve "/../a//é/x/./y/act/i%2e/" = .ok (.activity "i%2e/") := by
    have hroot : Path.after? m.base "/a/é/x/y/act/i%2e/".toList =
        some ('/' :: "x/y/act/i%2e/".toList) := by
      decide
    have hspecial : Path.after? m.special.toList "x/y/act/i%2e/".toList =
        some ('/' :: ("act".toList ++ '/' :: "i%2e/".toList)) := by
      decide
    rw [resolve, hpath]
    show m.locate (normalize _) = _
    rw [hnormal, locate_special hroot (by decide) hspecial, specialTarget_activity (by decide),
      String.ofList_toList]
  have houtside : m.resolve "/a/é/../../b" = .error .outsideMount := by
    have hpath : requestPath? "/a/é/../../b".toList = some "/a/é/../../b".toList := by decide
    have hnormal : normalize "/a/é/../../b".toList = "/b".toList := by decide
    have hroot : Path.after? m.base "/b".toList = none := by decide
    rw [resolve, hpath]
    show m.locate (normalize _) = _
    rw [hnormal, locate, hroot]
  obtain ⟨hanswer, answer, hsome, hfound⟩ :=
    m.resolveBy?_sound Uri.path? "/../a//é/x/./y/act/i%2e/"
  rw [hanswer, hinside] at hsome
  obtain ⟨hcoherent, path, hasked, -, hunder⟩ := hfound _ (Option.some.inj hsome).symm
  have hrequest : requestPathBy? Uri.path? "/../a//é/x/./y/act/i%2e/".toList =
      requestPath? "/../a//é/x/./y/act/i%2e/".toList := rfl
  rw [hrequest, hpath, Option.some_inj] at hasked
  rw [← hasked, hnormal] at hunder
  have hlonger : "/a/é/x/y/act/i%2e/".toList ≠ m.base := by decide
  exact ⟨by rw [hanswer, hinside], hcoherent, hunder.resolve_left hlonger,
    by rw [m.resolveBy?_path?, houtside]⟩

end DavGateway
