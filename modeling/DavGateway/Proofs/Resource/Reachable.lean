/-
# What can be reached on a mount

The names that are left of a request path are plain: neither empty nor dot
segments, and without the marks that end a path.  A root or a special segment
that has anything else in it therefore never meets them, although settings with
such a mount pass the check: under such a root every request URI is malformed,
and behind such a special segment nothing is found.  The mounts that work are
just the plain ones.  All this holds by any grammar of absolute URIs whose paths
end where a query or a fragment begins.

* `isPlainName_of_mem_resolve` : the names in a request path are plain.
* `Mount.Serves` : the root is found by its own URIs, at no revision and at each.
* `Settings.serves_iff_plain` : the mounts on which that is so.
-/
import DavGateway.Proofs.Resource.RoundTrip
import DavGateway.Proofs.Resource.Unvalidated

open DavGateway.Path

namespace DavGateway

/-! ## Request paths -/

/-- Whether the paths that a grammar of URIs finds end where a query or a fragment begins. -/
def Uri.EndsAtMarks (strict : List Char → Option (List Char)) : Prop :=
  ∀ uri path, strict uri = some path → '?' ∉ path ∧ '#' ∉ path

/-- The grammar of the gateway is one of those. -/
theorem Uri.endsAtMarks_path? : EndsAtMarks path? := by
  have hall : ∀ {text : List Char}, text.all isPathChar = true → '?' ∉ text ∧ '#' ∉ text := by
    intro text htext
    rw [List.all_eq_true] at htext
    exact ⟨fun hmem => absurd (htext _ hmem) (by decide),
      fun hmem => absurd (htext _ hmem) (by decide)⟩
  intro uri path h
  unfold path? at h
  split at h
  · cases h
  split at h
  · next hstar =>
    obtain rfl : ['*'] = path := by rw [← hstar]; exact Option.some.inj h
    decide
  split at h
  · split at h
    · cases h
      simp
    · cases h
  · dsimp only at h
    split at h
    · cases h
    · unfold pathAndQuery? at h
      dsimp only at h
      split at h
      · next hchars =>
        rw [Bool.and_eq_true] at hchars
        obtain rfl := Option.some.inj h
        split
        · decide
        · exact hall hchars.1
      · cases h

section Strict

variable {strict : List Char → Option (List Char)}

/-- The path that a URI asks for has no query and no fragment in it. -/
theorem not_mem_requestPathBy? (hstrict : Uri.EndsAtMarks strict) {uri path : List Char}
    (h : requestPathBy? strict uri = some path) : '?' ∉ path ∧ '#' ∉ path := by
  have hend : ∀ (c : Char) (text : List Char), c ∉ text.takeWhile (· ≠ c) := by
    intro c text hmem
    have hne := List.all_eq_true.1 List.all_takeWhile c hmem
    simp at hne
  unfold requestPathBy? at h
  dsimp only at h
  split at h
  · obtain rfl := Option.some.inj h
    refine ⟨hend '?' _, fun hmem => ?_⟩
    exact hend '#' uri ((List.takeWhile_prefix _).subset hmem)
  · exact hstrict _ path h

/-- The names in a request path are plain. -/
theorem isPlainName_of_mem_resolve (hstrict : Uri.EndsAtMarks strict) {uri path seg : List Char}
    (hpath : requestPathBy? strict uri = some path) (hseg : seg ∈ Path.resolve path) :
    IsPlainName seg := by
  obtain ⟨hquery, hfragment⟩ := not_mem_requestPathBy? hstrict hpath
  have hsub : seg ⊆ path := (infix_of_mem_resolve hseg).subset
  exact ⟨isName_of_mem_resolve hseg, fun hmem => hquery (hsub hmem),
    fun hmem => hfragment (hsub hmem)⟩

/-! ## Mounts that are not plain -/

namespace Mount

variable {m : Mount}

/-- A URI that asks for no path is malformed. -/
theorem resolveBy?_of_requestPathBy?_eq_none {uri : String}
    (hpath : requestPathBy? strict uri.toList = none) :
    m.resolveBy? strict uri = some (.error .unparsable) := by
  rw [resolveBy?, hpath]

/-- A URI is read by the names in the path that it asks for, by whichever grammar. -/
theorem Segmented.resolveBy?_eq (h : m.Segmented) {uri : String} {path : List Char}
    (hpath : requestPathBy? strict uri.toList = some path) :
    m.resolveBy? strict uri = some (m.read (isDirectoryForm path) (Path.resolve path)) := by
  rw [resolveBy?, hpath]
  simp only [locate?_eq, normalize_eq]
  rw [h.locate_eq (fun s hs => isName_of_mem_resolve hs)]

/-- Under a root with a segment that is not plain every URI is malformed. -/
theorem Segmented.resolveBy?_of_not_plain_root (h : m.Segmented)
    (hstrict : Uri.EndsAtMarks strict) (hroot : ∃ seg ∈ m.rootSegments, ¬ IsPlainName seg)
    (uri : String) :
    m.resolveBy? strict uri = some (.error .unparsable) ∨
      m.resolveBy? strict uri = some (.error .outsideMount) := by
  cases hpath : requestPathBy? strict uri.toList with
  | none => exact .inl (resolveBy?_of_requestPathBy?_eq_none hpath)
  | some path =>
    right
    obtain ⟨seg, hseg, hplain⟩ := hroot
    have hnone : ¬ m.rootSegments <+: Path.resolve path := fun hbegins =>
      hplain (isPlainName_of_mem_resolve hstrict hpath (hbegins.subset hseg))
    rw [h.resolveBy?_eq hpath, read, if_neg hnone]

/-- Plain names below the root do not lead into a special area whose segment is not plain. -/
theorem readBelow_of_not_plain_special (hspecial : ¬ IsPlainName m.special.toList)
    {names : List (List Char)} (hnames : ∀ seg ∈ names, IsPlainName seg) (directory : Bool) :
    m.readBelow directory names = .error .undecodable ∨
      ∃ path, m.readBelow directory names = .ok (.item path) := by
  cases names with
  | nil => exact .inr ⟨"/", rfl⟩
  | cons first rest =>
    have hfirst : first ≠ m.special.toList := by
      rintro heq
      exact hspecial (heq ▸ hnames first List.mem_cons_self)
    rw [readBelow, if_neg hfirst, decodePath]
    split
    · next path _ => exact .inr ⟨String.ofList path, rfl⟩
    · exact .inl rfl

/-- Every URI then asks for an item, or for nothing that could be in a special area. -/
theorem Segmented.resolveBy?_of_not_plain_special (h : m.Segmented)
    (hstrict : Uri.EndsAtMarks strict) (hspecial : ¬ IsPlainName m.special.toList)
    (uri : String) :
    (∃ e, e ≠ .unsupportedForm ∧ m.resolveBy? strict uri = some (.error e)) ∨
      ∃ path, m.resolveBy? strict uri = some (.ok (.item path)) := by
  cases hpath : requestPathBy? strict uri.toList with
  | none => exact .inl ⟨.unparsable, by decide, resolveBy?_of_requestPathBy?_eq_none hpath⟩
  | some path =>
    rw [h.resolveBy?_eq hpath, read]
    split
    · have hnames : ∀ seg ∈ (Path.resolve path).drop m.rootSegments.length, IsPlainName seg :=
        fun seg hseg => isPlainName_of_mem_resolve hstrict hpath (List.mem_of_mem_drop hseg)
      rcases readBelow_of_not_plain_special hspecial hnames (isDirectoryForm path) with
        hundecodable | ⟨item, hitem⟩
      · exact .inl ⟨.undecodable, by decide, by rw [hundecodable]⟩
      · exact .inr ⟨item, by rw [hitem]⟩
    · exact .inl ⟨.outsideMount, by decide, rfl⟩

end Mount

end Strict

/-! ## Mounts that work -/

namespace Mount

/-- Whether the root is found by its own URIs, at no revision and at every one. -/
def Serves (m : Mount) : Prop :=
  ∀ revision : Revision,
    m.resolve (m.uri (ResourceKind.item.resource revision none)) = .ok (.item "/") ∧
    m.resolve (m.uri (ResourceKind.version.resource revision none)) = .ok (.version revision "/")

variable {m : Mount}

/-- A mount of well-formed settings is plain if its segments are. -/
theorem Valid.plain (h : m.Valid) (hroot : ∀ seg ∈ m.rootSegments, IsPlainName seg)
    (hspecial : IsPlainName m.special.toList) : m.Plain := by
  refine ⟨?_, hspecial⟩
  by_cases hslash : m.root = "/"
  · exact .inl hslash
  · refine .inr ⟨m.rootSegments, hroot, ?_⟩
    rw [h.segmented.join_rootSegments, base, if_neg hslash]

/-- A plain mount serves its root. -/
theorem Plain.serves (h : m.Plain) : m.Serves := by
  intro revision
  have hfirst : Percent.encode (first "/".toList) ≠ m.special.toList := by
    have hnone : Percent.encode (first "/".toList) = [] := by decide
    rw [hnone]
    exact h.special.1.1.symm
  exact ⟨h.resolve_item isAbsolute_slash hfirst, h.resolve_version revision isAbsolute_slash⟩

end Mount

/-- **What can be reached on a mount.**  Under settings that pass the check, the root is found by
its own URIs just if the segments of the root and the special segment are plain names.  If one of
the root is not, every request URI is malformed; if the special segment is not, none leads into the
special area: each asks for an item, or is refused for another reason than the form of what it asks
for there.  Both hold by any grammar of absolute URIs whose paths end at a query or a fragment, and
that of the gateway is one. -/
theorem Settings.serves_iff_plain (s : Settings) :
    (s.mount.Serves ↔
      (∀ seg ∈ s.mount.rootSegments, IsPlainName seg) ∧ IsPlainName s.mount.special.toList) ∧
    (∀ strict : List Char → Option (List Char), Uri.EndsAtMarks strict →
      ((∃ seg ∈ s.mount.rootSegments, ¬ IsPlainName seg) → ∀ uri,
        s.mount.resolveBy? strict uri = some (.error .unparsable) ∨
          s.mount.resolveBy? strict uri = some (.error .outsideMount)) ∧
      (¬ IsPlainName s.mount.special.toList → ∀ uri,
        (∃ e, e ≠ .unsupportedForm ∧ s.mount.resolveBy? strict uri = some (.error e)) ∨
          ∃ path, s.mount.resolveBy? strict uri = some (.ok (.item path)))) ∧
    Uri.EndsAtMarks Uri.path? ∧
    ∀ uri, s.mount.resolveBy? Uri.path? uri = some (s.mount.resolve uri) := by
  have hsegmented := s.mount_valid.segmented
  have hanswer : ∀ uri, s.mount.resolveBy? Uri.path? uri = some (s.mount.resolve uri) :=
    s.mount.resolveBy?_path?
  refine ⟨⟨fun hserves => ⟨fun seg hseg => ?_, ?_⟩, fun hplain => ?_⟩, fun strict hstrict =>
    ⟨hsegmented.resolveBy?_of_not_plain_root hstrict,
      hsegmented.resolveBy?_of_not_plain_special hstrict⟩, Uri.endsAtMarks_path?, hanswer⟩
  · by_contra hplain
    have hmalformed := hsegmented.resolveBy?_of_not_plain_root Uri.endsAtMarks_path?
      ⟨seg, hseg, hplain⟩ (s.mount.uri (ResourceKind.item.resource 0 none))
    rw [hanswer, (hserves 0).1] at hmalformed
    simp at hmalformed
  · by_contra hplain
    have hitem := hsegmented.resolveBy?_of_not_plain_special Uri.endsAtMarks_path? hplain
      (s.mount.uri (ResourceKind.version.resource 0 none))
    rw [hanswer, (hserves 0).2] at hitem
    simp at hitem
  · exact (s.mount_valid.plain hplain.1 hplain.2).serves

/-- A root with a slash at its end is served without it.  With a dot for the last segment of the
root and for the special segment nothing is served, and no absolute URI finds either. -/
theorem Settings.serves_repos :
    (∃ s : Settings, ({ root := "/repos/" } : Settings.Draft).check = .ok s ∧ s.mount.Serves) ∧
    ∃ s : Settings, ({ root := "/a/.", special := "." } : Settings.Draft).check = .ok s ∧
      ¬ s.mount.Serves ∧
      (s.mount.resolveBy? Uri.path? "http://h/a/./" = some (.error .unparsable) ∨
        s.mount.resolveBy? Uri.path? "http://h/a/./" = some (.error .outsideMount)) ∧
      s.mount.resolveBy? Uri.path? "http://h/a/././vcc/default" ≠
        some (.error .unsupportedForm) := by
  constructor
  · obtain ⟨s, hcheck, hmount⟩ : ∃ s : Settings,
        ({ root := "/repos/" } : Settings.Draft).check = .ok s ∧ s.mount = ⟨"/repos", "!svn"⟩ :=
      ⟨_, rfl, rfl⟩
    have hroot : (⟨"/repos", "!svn"⟩ : Mount).rootSegments = ["repos".toList] := by decide
    refine ⟨s, hcheck, s.serves_iff_plain.1.2 ⟨?_, ?_⟩⟩
    · rw [hmount, hroot, List.forall_mem_singleton]
      decide
    · rw [hmount]
      decide
  · obtain ⟨s, hcheck, hmount⟩ : ∃ s : Settings,
        ({ root := "/a/.", special := "." } : Settings.Draft).check = .ok s ∧
          s.mount = ⟨"/a/.", "."⟩ :=
      ⟨_, rfl, rfl⟩
    have hspecial : ¬ IsPlainName s.mount.special.toList := by
      rw [hmount]
      decide
    have hroot : ∃ seg ∈ s.mount.rootSegments, ¬ IsPlainName seg := by
      rw [hmount]
      exact ⟨['.'], by decide, by decide⟩
    obtain ⟨hserves, hothers, hstrict, -⟩ := s.serves_iff_plain
    obtain ⟨hmalformed, hitem⟩ := hothers Uri.path? hstrict
    refine ⟨s, hcheck, fun h => hspecial (hserves.1 h).2, hmalformed hroot _, ?_⟩
    rcases hitem hspecial "http://h/a/././vcc/default" with ⟨e, hne, he⟩ | ⟨path, hpath⟩
    · rw [he]
      simpa using hne
    · rw [hpath]
      simp

/-- A dot is taken for a special segment, and two slashes in a row are taken in a root, but no
request path has either in it. -/
theorem Settings.not_serves_dot :
    (∃ s : Settings, ({ special := "." } : Settings.Draft).check = .ok s ∧
      s.mount.uri (ResourceKind.version.resource 3 none) = "/./ver/3/" ∧
      s.mount.resolve "/./ver/3/" = .ok (.item "/ver/3/")) ∧
    ∃ s : Settings, ({ root := "/a//b" } : Settings.Draft).check = .ok s ∧
      s.mount.uri (ResourceKind.item.resource 3 none) = "/a//b/" ∧
      s.mount.resolve "/a//b/" = .error .outsideMount := by
  constructor
  · obtain ⟨s, hcheck, hmount⟩ : ∃ s : Settings,
        ({ special := "." } : Settings.Draft).check = .ok s ∧ s.mount = ⟨"/", "."⟩ := ⟨_, rfl, rfl⟩
    have huri : (⟨"/", "."⟩ : Mount).uriChars (.version 3 "/") = "/./ver/3/".toList := by decide
    have hbefore : beforeQuery "/./ver/3/".toList = "/./ver/3/".toList := by decide
    have hnames : Path.resolve "/./ver/3/".toList = (⟨"/", "."⟩ : Mount).rootSegments ++
        [Percent.encode "ver".toList, Percent.encode "3".toList] := by
      decide
    have hdirectory : endsInDirectory "/./ver/3/".toList = true := by decide
    have hfirst : Percent.encode "ver".toList ≠ ".".toList := by decide
    have hread : decodePath (join [Percent.encode "ver".toList, Percent.encode "3".toList] ++
        slashIf true) = .ok "/ver/3/" := decodePath_join_encode ["ver".toList, "3".toList] true
    refine ⟨s, hcheck, ?_, ?_⟩
    · rw [hmount, Mount.uri, show ResourceKind.version.resource 3 none = .version 3 "/" from rfl,
        huri, String.ofList_toList]
    · rw [s.mount_valid.segmented.resolve_eq (by decide), hmount, hbefore, hnames, hdirectory,
        Mount.read_append, Mount.readBelow, if_neg hfirst, hread]
      rfl
  · obtain ⟨s, hcheck, hmount⟩ : ∃ s : Settings,
        ({ root := "/a//b" } : Settings.Draft).check = .ok s ∧ s.mount = ⟨"/a//b", "!svn"⟩ :=
      ⟨_, rfl, rfl⟩
    have huri : (⟨"/a//b", "!svn"⟩ : Mount).uriChars (.item "/") = "/a//b/".toList := by decide
    have hbefore : beforeQuery "/a//b/".toList = "/a//b/".toList := by decide
    have hnames : Path.resolve "/a//b/".toList = ["a".toList, "b".toList] := by decide
    have hroot : ¬ (⟨"/a//b", "!svn"⟩ : Mount).rootSegments <+: ["a".toList, "b".toList] := by
      decide
    refine ⟨s, hcheck, ?_, ?_⟩
    · rw [hmount, Mount.uri, show ResourceKind.item.resource 3 none = .item "/" from rfl,
        huri, String.ofList_toList]
    · rw [s.mount_valid.segmented.resolve_eq (by decide), hmount, hbefore, hnames, Mount.read,
        if_neg hroot]

end DavGateway
