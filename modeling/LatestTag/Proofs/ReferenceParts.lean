import LatestTag.Proofs.BareReference
import Mathlib.Data.List.DropRight

/-!
# References are taken apart as they are put together

A reference is put together from a host, a path, a tag and a digest, with a slash, a colon and an
`@` between them. This file says that these parts are found again:

> `tagging_undone`: a name is what is left of it when a tag, a digest or both were put behind it.

> `host_and_path_decompose`: a host and the path behind it are read back, every other reference is a
> path on the default registry, and so the host and the path together name one image.

The tag is the part that needs care, since a colon in front of it may belong to a port. It is looked
for behind the last slash only (`stripTag_eq`), and there the last colon is the right one: the name
may have none in its last component, and the tag has none at all.
-/

namespace LatestTag.Reference

open Text (cutFirst? cutLast? cutFirst?_eq_none_iff cutFirst?_eq_some_iff cutLast?_eq_none_iff
  cutLast?_eq_some_iff)

/-! ## Tags and digests -/

/-- What stands behind the last slash; everything if there is none. -/
def lastComponent (ref : List Char) : List Char := ref.rtakeWhile (· != '/')

/-- What comes up to the last slash and with it. -/
def upToLast (ref : List Char) : List Char := ref.rdropWhile (· != '/')

variable {s tag : List Char}

theorem upToLast_append_lastComponent (ref : List Char) :
    upToLast ref ++ lastComponent ref = ref := List.rdropWhile_append_rtakeWhile

theorem slash_not_mem_lastComponent (ref : List Char) : '/' ∉ lastComponent ref := by
  intro hslash
  exact absurd (List.mem_rtakeWhile_imp (p := (· != '/')) hslash) (by decide)

/-- The tag is looked for behind the last slash. -/
theorem stripTag_eq (ref : String) :
    stripTag ref = .ofList (upToLast (dropDigest ref.toList) ++
      dropTag (lastComponent (dropDigest ref.toList))) := by
  unfold stripTag
  dsimp only
  have hparts := upToLast_append_lastComponent (dropDigest ref.toList)
  have hlast := slash_not_mem_lastComponent (dropDigest ref.toList)
  by_cases hnil : upToLast (dropDigest ref.toList) = []
  · -- there is no slash
    rw [hnil, List.nil_append] at hparts
    rw [hparts] at hlast
    rw [cutLast?_eq_none_iff.2 hlast, hnil, hparts]
    rfl
  · have hslash : (upToLast (dropDigest ref.toList)).getLast hnil = '/' := by
      have hstop : ¬ ((upToLast (dropDigest ref.toList)).getLast hnil != '/') = true :=
        List.rdropWhile_last_not (· != '/') (dropDigest ref.toList) hnil
      simpa using hstop
    have hup : upToLast (dropDigest ref.toList) =
        (upToLast (dropDigest ref.toList)).dropLast ++ ['/'] := by
      rw [← hslash, List.dropLast_append_getLast]
    have hcut : cutLast? '/' (dropDigest ref.toList) =
        some ((upToLast (dropDigest ref.toList)).dropLast,
          lastComponent (dropDigest ref.toList)) := by
      refine cutLast?_eq_some_iff.2 ⟨?_, hlast⟩
      rw [← List.singleton_append, ← List.append_assoc, ← hup, hparts]
    rw [hcut]
    dsimp only
    rw [← List.singleton_append, ← List.append_assoc, ← hup]

theorem dropDigest_of_not_mem (h : '@' ∉ s) : dropDigest s = s := by
  unfold dropDigest
  rw [cutFirst?_eq_none_iff.2 h]

theorem dropDigest_append_digest (h : '@' ∉ s) (digest : List Char) :
    dropDigest (s ++ '@' :: digest) = s := by
  unfold dropDigest
  rw [cutFirst?_eq_some_iff.2 ⟨rfl, h⟩]

theorem dropTag_of_not_mem (h : ':' ∉ s) : dropTag s = s := by
  unfold dropTag
  rw [cutLast?_eq_none_iff.2 h]

theorem dropTag_append_tag (h : ':' ∉ tag) (s : List Char) : dropTag (s ++ ':' :: tag) = s := by
  unfold dropTag
  rw [cutLast?_eq_some_iff.2 ⟨rfl, h⟩]

/-- What has no slash only lengthens the last component. -/
theorem lastComponent_append (h : '/' ∉ tag) (s : List Char) :
    lastComponent (s ++ tag) = lastComponent s ++ tag ∧ upToLast (s ++ tag) = upToLast s := by
  have hplain : ∀ c ∈ tag.reverse, (c != '/') = true := by
    intro c hc
    exact bne_iff_ne.2 fun hslash => h (hslash ▸ List.mem_reverse.1 hc)
  unfold lastComponent upToLast List.rtakeWhile List.rdropWhile
  rw [List.reverse_append, List.takeWhile_append_of_pos hplain,
    List.dropWhile_append_of_pos hplain, List.reverse_append, List.reverse_reverse]
  exact ⟨rfl, rfl⟩

/-- A name is left as it is. -/
theorem stripTag_of_name {name : String} (hat : '@' ∉ name.toList)
    (hcolon : ':' ∉ lastComponent name.toList) : stripTag name = name := by
  rw [stripTag_eq, dropDigest_of_not_mem hat, dropTag_of_not_mem hcolon,
    upToLast_append_lastComponent, String.ofList_toList]

/-- A tag is dropped, whatever name it was put behind. -/
theorem stripTag_append_tag {name tag : String} (hat : '@' ∉ name.toList)
    (hslash : '/' ∉ tag.toList) (hcolon : ':' ∉ tag.toList) (htag : '@' ∉ tag.toList) :
    stripTag (name ++ ":" ++ tag) = name := by
  have htext : (name ++ ":" ++ tag).toList = name.toList ++ ':' :: tag.toList := by simp
  have hplain : '@' ∉ name.toList ++ ':' :: tag.toList := by simp [hat, htag]
  have hnoSlash : '/' ∉ ':' :: tag.toList := by simp [hslash]
  obtain ⟨hlast, hup⟩ := lastComponent_append hnoSlash name.toList
  rw [stripTag_eq, htext, dropDigest_of_not_mem hplain, hlast, hup, dropTag_append_tag hcolon,
    upToLast_append_lastComponent, String.ofList_toList]

/-- A digest makes no difference. -/
theorem stripTag_append_digest {ref : String} (hat : '@' ∉ ref.toList) (digest : String) :
    stripTag (ref ++ "@" ++ digest) = stripTag ref := by
  have htext : (ref ++ "@" ++ digest).toList = ref.toList ++ '@' :: digest.toList := by simp
  rw [stripTag_eq, stripTag_eq, htext, dropDigest_append_digest hat, dropDigest_of_not_mem hat]

/-- **Tagging is undone.** A name with no `@`, and no colon behind its last slash, is what is left
of it, of the name with a tag, with any digest, and with both. -/
theorem tagging_undone {name tag : String} (digest : String) (hat : '@' ∉ name.toList)
    (hcolon : ':' ∉ lastComponent name.toList)
    (htag : '/' ∉ tag.toList ∧ ':' ∉ tag.toList ∧ '@' ∉ tag.toList) :
    stripTag name = name ∧
    stripTag (name ++ ":" ++ tag) = name ∧
    stripTag (name ++ "@" ++ digest) = name ∧
    stripTag (name ++ ":" ++ tag ++ "@" ++ digest) = name := by
  obtain ⟨htagSlash, htagColon, htagAt⟩ := htag
  have hname := stripTag_of_name hat hcolon
  have htagged := stripTag_append_tag hat htagSlash htagColon htagAt
  have hplain : '@' ∉ (name ++ ":" ++ tag).toList := by simp [hat, htagAt]
  refine ⟨hname, htagged, ?_, ?_⟩
  · rw [stripTag_append_digest hat, hname]
  · rw [stripTag_append_digest hplain, htagged]

/-- A port, letters of several bytes, and a digest with every separator in it. -/
theorem tagging_undone_of_port :
    stripTag "höst:5000/ä/b" = "höst:5000/ä/b" ∧
    stripTag ("höst:5000/ä/b" ++ ":" ++ "ß1") = "höst:5000/ä/b" ∧
    stripTag ("höst:5000/ä/b" ++ "@" ++ "a/b:c@d") = "höst:5000/ä/b" ∧
    stripTag ("höst:5000/ä/b" ++ ":" ++ "ß1" ++ "@" ++ "a/b:c@d") = "höst:5000/ä/b" :=
  tagging_undone "a/b:c@d" (by decide) (by decide) (by decide)

/-! ## Hosts and paths -/

/-- The text names a registry: it has a dot or a port or is `localhost`, and it has no slash. -/
def IsHost (host : String) : Prop :=
  '/' ∉ host.toList ∧ ('.' ∈ host.toList ∨ ':' ∈ host.toList ∨ host = "localhost")

instance (host : String) : Decidable (IsHost host) := inferInstanceAs (Decidable (_ ∧ _))

variable {host path ref ref' : String}

/-- The first component of a host and a path is the host. -/
theorem parts_of_host (hhost : IsHost host) (path : String) :
    NamesHost (host ++ "/" ++ path) ∧ firstComponent (host ++ "/" ++ path) = host.toList ∧
      behindFirst (host ++ "/" ++ path) = '/' :: path.toList := by
  obtain ⟨hslash, hlooks⟩ := hhost
  have htext : (host ++ "/" ++ path).toList = host.toList ++ '/' :: path.toList := by simp
  obtain ⟨hfirst, hbehind⟩ := parts_of_append htext hslash
  refine ⟨⟨?_, ?_⟩, hfirst, hbehind⟩
  · rw [hbehind]
    exact List.cons_ne_nil _ _
  · rw [hfirst]
    exact hlooks.imp_right fun h => h.imp_right (congrArg String.toList)

theorem namesHost_iff : NamesHost ref ↔ ∃ host path, IsHost host ∧ ref = host ++ "/" ++ path := by
  constructor
  · intro h
    obtain ⟨hbehind, hlooks⟩ := h
    obtain ⟨htext, hslash⟩ := toList_eq_parts hbehind
    refine ⟨.ofList (firstComponent ref), .ofList (behindFirst ref).tail, ⟨?_, ?_⟩, ?_⟩
    · rw [String.toList_ofList]
      exact hslash
    · rw [String.toList_ofList]
      refine hlooks.imp_right fun h => h.imp_right ?_
      intro hword
      rw [hword, String.ofList_toList]
    · apply String.toList_inj.1
      rw [htext]
      simp
  · intro h
    obtain ⟨host, path, hhost, rfl⟩ := h
    exact (parts_of_host hhost path).1

/-- The host and the path are read back. -/
theorem registryHost_append (hhost : IsHost host) (path : String) :
    registryHost (host ++ "/" ++ path) = host ∧ repositoryPath (host ++ "/" ++ path) = path := by
  obtain ⟨hnames, hfirst, hbehind⟩ := parts_of_host hhost path
  rw [registryHost_eq, repositoryPath_eq, if_pos hnames, if_pos hnames, hfirst, hbehind]
  exact ⟨String.ofList_toList, String.ofList_toList⟩

theorem registryHost_of_not_namesHost (h : ¬ NamesHost ref) :
    registryHost ref = defaultRegistry ∧ repositoryPath ref = ref := by
  rw [registryHost_eq, repositoryPath_eq, if_neg h, if_neg h]
  exact ⟨rfl, rfl⟩

/-- A reference that names its host is the host and the path. -/
theorem eq_host_and_path (h : NamesHost ref) :
    ref = registryHost ref ++ "/" ++ repositoryPath ref := by
  obtain ⟨host, path, hhost, rfl⟩ := namesHost_iff.1 h
  obtain ⟨hread, hpath⟩ := registryHost_append hhost path
  rw [hread, hpath]

/-- Where one reference names the host and the other one does not, the host is the default. -/
theorem eq_defaultRegistry_append (h : NamesHost ref) (h' : ¬ NamesHost ref')
    (hhost : registryHost ref = registryHost ref')
    (hpath : repositoryPath ref = repositoryPath ref') : ref = defaultRegistry ++ "/" ++ ref' := by
  obtain ⟨hdefault, hself⟩ := registryHost_of_not_namesHost h'
  have hparts := eq_host_and_path h
  rw [hhost, hpath, hdefault, hself] at hparts
  exact hparts

/-- **Host and path decompose a reference.** A host and a path with a slash between them are read
back; a reference of any other form is a path on the default registry. So two references with the
same host and the same path are equal, up to the default registry in front of one of them. -/
theorem host_and_path_decompose :
    (∀ host path, IsHost host →
      registryHost (host ++ "/" ++ path) = host ∧ repositoryPath (host ++ "/" ++ path) = path) ∧
    (∀ ref, (¬ ∃ host path, IsHost host ∧ ref = host ++ "/" ++ path) →
      registryHost ref = "docker.io" ∧ repositoryPath ref = ref) ∧
    ∀ ref ref', registryHost ref = registryHost ref' → repositoryPath ref = repositoryPath ref' →
      ref = ref' ∨ ref = "docker.io/" ++ ref' ∨ ref' = "docker.io/" ++ ref := by
  refine ⟨?_, ?_, ?_⟩
  · intro host path hhost
    exact registryHost_append hhost path
  · intro ref hnone
    exact registryHost_of_not_namesHost fun hnames => hnone (namesHost_iff.1 hnames)
  · intro ref ref' hhost hpath
    by_cases h : NamesHost ref
    · by_cases h' : NamesHost ref'
      · left
        rw [eq_host_and_path h, eq_host_and_path h', hhost, hpath]
      · exact Or.inr (Or.inl (eq_defaultRegistry_append h h' hhost hpath))
    · by_cases h' : NamesHost ref'
      · exact Or.inr (Or.inr (eq_defaultRegistry_append h' h hhost.symm hpath.symm))
      · left
        rw [(registryHost_of_not_namesHost h).2, (registryHost_of_not_namesHost h').2] at hpath
        exact hpath

/-- A host of nothing but a dot, a path that begins with an empty component, and the two spellings
of an image on the default registry. -/
theorem host_and_path_decompose_of_dot :
    IsHost "." ∧ registryHost ".//quay.io/app" = "." ∧ repositoryPath ".//quay.io/app" =
      "/quay.io/app" ∧
    registryHost "docker.io/nginx" = registryHost "nginx" ∧
    repositoryPath "docker.io/nginx" = repositoryPath "nginx" ∧
    ("docker.io/nginx" = "nginx" ∨ "docker.io/nginx" = "docker.io/" ++ "nginx" ∨
      "nginx" = "docker.io/" ++ "docker.io/nginx") := by
  obtain ⟨hread, _, hsame⟩ := host_and_path_decompose
  have hdot : IsHost "." := by decide
  have hhost : registryHost "docker.io/nginx" = registryHost "nginx" := by decide
  have hpath : repositoryPath "docker.io/nginx" = repositoryPath "nginx" := by decide
  obtain ⟨hhead, hrest⟩ := hread "." "/quay.io/app" hdot
  exact ⟨hdot, hhead, hrest, hhost, hpath, hsame _ _ hhost hpath⟩

end LatestTag.Reference
