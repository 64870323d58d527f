/-
# Dot segments in requested paths

A request path is resolved first and decoded then.  So the path of a target is
what names decode to, one by one, and it has no dot segments and no repeated
slashes if the URI spells no dot and no slash by an escape.  A URI that does so
can bring them back.

* `Mount.Segmented.decodesFrom_of_resolve` : the path of a target is decoded from names.
* `Settings.resolve_path` : when it is resolved.
-/
import DavGateway.Proofs.Path.Decoding
import DavGateway.Proofs.Resource.Grammar

open DavGateway.Path

namespace DavGateway

/-! ## Names in a path -/

namespace Path

/-- Resolution keeps segments of the path. -/
theorem mem_of_mem_foldl_resolveStep {segs kept : List (List Char)} {s : List Char}
    (h : s ∈ segs.foldl resolveStep kept) : s ∈ segs ∨ s ∈ kept := by
  induction segs generalizing kept with
  | nil => exact .inr h
  | cons seg segs ih =>
    rcases ih h with hmem | hmem
    · exact .inl (List.mem_cons_of_mem _ hmem)
    · unfold resolveStep at hmem
      split at hmem
      · exact .inr hmem
      split at hmem
      · exact .inr (List.mem_of_mem_tail hmem)
      · rcases List.mem_cons.1 hmem with rfl | hmem
        · exact .inl List.mem_cons_self
        · exact .inr hmem

/-- The segments of a path stand in it. -/
theorem infix_of_mem_segments {path seg : List Char} (h : seg ∈ segments path) : seg <:+: path := by
  obtain ⟨front, back, hsegs⟩ := List.append_of_mem h
  have hjoin : '/' :: path = join front ++ '/' :: seg ++ join back := by
    rw [← join_segments, hsegs]
    simp
  cases front with
  | nil =>
    obtain rfl : path = seg ++ join back := by simpa using hjoin
    exact ⟨[], join back, rfl⟩
  | cons first front =>
    obtain rfl : path = first ++ join front ++ '/' :: seg ++ join back := by simpa using hjoin
    exact ⟨first ++ join front ++ ['/'], join back, by simp⟩

/-- What resolution leaves stands in the path. -/
theorem infix_of_mem_resolve {path seg : List Char} (h : seg ∈ resolve path) : seg <:+: path := by
  rcases mem_of_mem_foldl_resolveStep (List.mem_reverse.1 h) with hmem | hmem
  · exact infix_of_mem_segments hmem
  · cases hmem

end Path

/-! ## The path of a target -/

/-- Whether a path is what the last of the names decode to; a slash if there are none. -/
def DecodesFrom (names : List (List Char)) (path : String) : Prop :=
  ∃ last directory, last <:+ names ∧ (last ≠ [] ∨ directory = true) ∧
    decodePath (join last ++ slashIf directory) = .ok path

theorem decodesFrom_slash (names : List (List Char)) : DecodesFrom names "/" :=
  ⟨[], true, List.nil_suffix, .inr rfl, decodePath_join_encode [] true⟩

theorem DecodesFrom.mono {names more : List (List Char)} {path : String}
    (h : DecodesFrom names path) (hmore : names <:+ more) : DecodesFrom more path := by
  obtain ⟨last, directory, hlast, hne, hpath⟩ := h
  exact ⟨last, directory, hlast.trans hmore, hne, hpath⟩

/-- A result that was mapped to comes from one that was mapped. -/
theorem map_eq_ok_iff {ε α β : Type} {f : α → β} {x : Except ε α} {b : β} :
    x.map f = .ok b ↔ ∃ a, x = .ok a ∧ f a = b := by
  cases x with
  | error e => simp [Except.map]
  | ok a => simp [Except.map]

theorem decodesFrom_of_readVersionPath {directory : Bool} {names : List (List Char)}
    {path : String} (h : readVersionPath directory names = .ok path) : DecodesFrom names path := by
  unfold readVersionPath at h
  split at h
  · cases h
    exact decodesFrom_slash names
  · next hne => exact ⟨names, directory, List.suffix_rfl, .inl hne, h⟩

theorem decodesFrom_of_readSpecial {directory : Bool} {names : List (List Char)} {target : Target}
    (h : readSpecial directory names = .ok target) : DecodesFrom names target.path := by
  unfold readSpecial at h
  split at h
  · next kind first rest =>
    split at h
    · cases h
      exact decodesFrom_slash _
    split at h
    · split at h
      · cases h
      · obtain ⟨path, hpath, rfl⟩ := map_eq_ok_iff.1 h
        exact (decodesFrom_of_readVersionPath hpath).mono
          ((List.suffix_cons first rest).trans (List.suffix_cons kind _))
    · cases h
  · cases h

/-- The path that names refer to is decoded from the last of them. -/
theorem Mount.decodesFrom_of_read {m : Mount} {directory : Bool} {names : List (List Char)}
    {target : Target} (h : m.read directory names = .ok target) :
    DecodesFrom names target.path := by
  unfold read at h
  split at h
  · refine DecodesFrom.mono ?_ (List.drop_suffix m.rootSegments.length names)
    unfold readBelow at h
    split at h
    · cases h
      exact decodesFrom_slash _
    · next first rest hnames =>
      rw [hnames]
      split at h
      · exact (decodesFrom_of_readSpecial h).mono (List.suffix_cons _ _)
      · obtain ⟨path, hpath, rfl⟩ := map_eq_ok_iff.1 h
        exact ⟨first :: rest, directory, List.suffix_rfl, .inl (by simp), hpath⟩
  · cases h

/-- The path of a target is decoded from the names in the path that the URI asks for. -/
theorem Mount.Segmented.decodesFrom_of_resolve {m : Mount} (h : m.Segmented) {uri : String}
    {target : Target} (htarget : m.resolve uri = .ok target) :
    ∃ path, requestPath? uri.toList = some path ∧
      DecodesFrom (Path.resolve path) target.path := by
  cases hpath : requestPath? uri.toList with
  | none => simp [resolve, hpath] at htarget
  | some path =>
    rw [h.resolve_eq_of_requestPath? hpath] at htarget
    exact ⟨path, rfl, decodesFrom_of_read htarget⟩

/-! ## When it is resolved -/

/-- A path that is decoded from joined segments is joined from what each of them decodes to. -/
theorem decodePath_joined {segs : List (List Char)} {directory : Bool} {path : String}
    (h : decodePath (join segs ++ slashIf directory) = .ok path) :
    ∃ texts, segs.mapM Percent.decode? = some texts ∧
      path.toList = join texts ++ slashIf directory := by
  rw [decodePath, Percent.decode?_joined] at h
  cases htexts : segs.mapM Percent.decode? with
  | none => simp [htexts] at h
  | some texts =>
    obtain rfl : String.ofList (join texts ++ slashIf directory) = path := by simpa [htexts] using h
    exact ⟨texts, rfl, by simp⟩

/-- What is among the results comes from one of the inputs. -/
theorem exists_mem_of_mem_mapM {α β : Type} {f : α → Option β} {l : List α} {l' : List β}
    (h : l.mapM f = some l') : l'.length = l.length ∧ ∀ b ∈ l', ∃ a ∈ l, f a = some b := by
  induction l generalizing l' with
  | nil =>
    cases h
    simp
  | cons a l ih =>
    rw [List.mapM_cons] at h
    cases ha : f a with
    | none => simp [ha] at h
    | some b =>
      cases hl : l.mapM f with
      | none => simp [ha, hl] at h
      | some bs =>
        obtain rfl : b :: bs = l' := by simpa [ha, hl] using h
        obtain ⟨hlength, hmem⟩ := ih hl
        refine ⟨by simp [hlength], List.forall_mem_cons.2 ⟨⟨a, by simp, ha⟩, ?_⟩⟩
        intro c hc
        obtain ⟨d, hd, hcd⟩ := hmem c hc
        exact ⟨d, by simp [hd], hcd⟩

/-- **Dot segments are resolved before decoding.**  Under settings that pass the check, the path of
a target is joined from what names decode to.  It has no dot segments and no repeated slashes if the
path that the URI asks for spells no dot and no slash by an escape. -/
theorem Settings.resolve_path (s : Settings) {uri : String} {target : Target}
    (h : s.mount.resolve uri = .ok target) :
    ∃ path, requestPath? uri.toList = some path ∧
      (∃ (names texts : List (List Char)) (directory : Bool),
        names <:+ Path.resolve path ∧ (∀ name ∈ names, IsName name) ∧
          names.mapM Percent.decode? = some texts ∧
          target.path.toList = join texts ++ slashIf directory) ∧
      ((∀ e ∈ Percent.markEscapes, ¬ e <:+: path) → IsResolved target.path.toList) := by
  obtain ⟨path, hpath, names, directory, hsuffix, hne, hdecode⟩ :=
    s.mount_valid.segmented.decodesFrom_of_resolve h
  obtain ⟨texts, htexts, htarget⟩ := decodePath_joined hdecode
  have hresolved : ∀ name ∈ names, name ∈ Path.resolve path := fun name hname =>
    hsuffix.subset hname
  have hnames : ∀ name ∈ names, IsName name := fun name hname =>
    isName_of_mem_resolve (hresolved name hname)
  refine ⟨path, hpath, ⟨names, texts, directory, hsuffix, hnames, htexts, htarget⟩, ?_⟩
  intro hmarks
  obtain ⟨hlength, hsource⟩ := exists_mem_of_mem_mapM htexts
  rw [htarget]
  apply isResolved_joined
  · intro text htext
    obtain ⟨name, hname, hread⟩ := hsource text htext
    have hsub : name <:+: path := infix_of_mem_resolve (hresolved name hname)
    exact Percent.isName_of_decode? (hnames name hname)
      (fun e he hin => hmarks e he (hin.trans hsub)) hread
  · rcases hne with hne | hdirectory
    · left
      rintro rfl
      exact hne (List.length_eq_zero_iff.1 hlength.symm)
    · exact .inr hdirectory

/-- Other escapes in the path do no harm, and those of dots none in the query. -/
theorem Settings.resolve_path_escaped_blank :
    ∃ s : Settings, ({} : Settings.Draft).check = .ok s ∧
      s.mount.resolve "/x/../a%20b//c/?p=%2e" = .ok (.item "/a b/c/") ∧
      IsResolved "/a b/c/".toList := by
  obtain ⟨s, hcheck, hmount⟩ : ∃ s : Settings, ({} : Settings.Draft).check = .ok s ∧
      s.mount = ⟨"/", "!svn"⟩ := ⟨_, rfl, rfl⟩
  have hhead : "/x/../a%20b//c/?p=%2e".toList.head? = some '/' := by decide
  have hbefore : beforeQuery "/x/../a%20b//c/?p=%2e".toList = "/x/../a%20b//c/".toList := by decide
  have hnames : Path.resolve "/x/../a%20b//c/".toList =
      (⟨"/", "!svn"⟩ : Mount).rootSegments ++ ["a%20b".toList, "c".toList] := by
    decide
  have hdirectory : endsInDirectory "/x/../a%20b//c/".toList = true := by decide
  have hfirst : "a%20b".toList ≠ "!svn".toList := by decide
  have hread : Percent.decode? (join ["a%20b".toList, "c".toList] ++ slashIf true) =
      some "/a b/c/".toList := by
    rw [Percent.decode?_eq_some_iff]
    decide
  have hresolve : s.mount.resolve "/x/../a%20b//c/?p=%2e" = .ok (.item "/a b/c/") := by
    rw [s.mount_valid.segmented.resolve_eq hhead, hmount, hbefore, hnames, hdirectory, Mount.read_append,
      Mount.readBelow, if_neg hfirst, decodePath, hread]
    simp [Except.map]
  obtain ⟨path, hpath, -, hresolved⟩ := s.resolve_path hresolve
  rw [requestPath?_of_head? hhead, hbefore, Option.some_inj] at hpath
  have hmarks : ∀ e ∈ Percent.markEscapes, ¬ e <:+: path := by
    -- each of them has a letter that the path has not
    have hmissing : (Percent.markEscapes.all fun e => e.any fun c =>
        !"/x/../a%20b//c/".toList.contains c) = true := by
      decide
    intro e he hsub
    obtain ⟨c, hc, hnot⟩ := List.any_eq_true.1 (List.all_eq_true.1 hmissing e he)
    rw [hpath] at hnot
    have hmem : c ∈ path := hsub.subset hc
    simp [hmem] at hnot
  exact ⟨s, hcheck, hresolve, hresolved hmarks⟩

/-- Escaped dots are a name when the path is resolved, and a dot segment once it is decoded. -/
theorem Settings.resolve_path_escaped_dots :
    ∃ s : Settings, ({} : Settings.Draft).check = .ok s ∧
      s.mount.resolve "/a/%2e%2e/b" = .ok (.item "/a/../b") ∧
      ¬ IsResolved "/a/../b".toList := by
  obtain ⟨s, hcheck, hmount⟩ : ∃ s : Settings, ({} : Settings.Draft).check = .ok s ∧
      s.mount = ⟨"/", "!svn"⟩ := ⟨_, rfl, rfl⟩
  have hbefore : beforeQuery "/a/%2e%2e/b".toList = "/a/%2e%2e/b".toList := by decide
  have hnames : Path.resolve "/a/%2e%2e/b".toList = (⟨"/", "!svn"⟩ : Mount).rootSegments ++
      ["a".toList, "%2e%2e".toList, "b".toList] := by
    decide
  have hdirectory : endsInDirectory "/a/%2e%2e/b".toList = false := by decide
  have hfirst : "a".toList ≠ "!svn".toList := by decide
  have hread : Percent.decode? (join ["a".toList, "%2e%2e".toList, "b".toList] ++ slashIf false) =
      some "/a/../b".toList := by
    rw [Percent.decode?_eq_some_iff]
    decide
  refine ⟨s, hcheck, ?_, ?_⟩
  · rw [s.mount_valid.segmented.resolve_eq (by decide), hmount, hbefore, hnames, hdirectory,
      Mount.read_append, Mount.readBelow, if_neg hfirst, decodePath, hread]
    simp [Except.map]
  · intro h
    exact (h.1 ['.', '.'] (by decide)).2 rfl

end DavGateway
