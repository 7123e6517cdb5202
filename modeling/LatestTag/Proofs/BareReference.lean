import LatestTag.Proofs.Routing

/-!
# Tags and digests do not matter for routing

`Reference.stripTag` cuts a reference at three places: before the first `@`, behind the last slash
and before the last colon behind that. `Reference.splitHost?` cuts it at the first slash. Where no
`@` stands before the first slash, the cuts do not interfere:

> `stripTag_append`: the reference without tag and digest has the same first component, and behind
> the first slash it has what is left of the rest when that is stripped alone.

So the host stays, the path is stripped, and the image is routed as before (`tag_ignored`).
-/

namespace LatestTag.Reference

open Text (cutFirst? cutLast? cutFirst?_eq_none_iff cutFirst?_eq_some_iff cutLast?_eq_none_iff
  cutLast?_eq_some_iff lowerAscii)

/-! ## What is left is the beginning -/

theorem isPrefix_dropDigest (s : List Char) : dropDigest s <+: s := by
  unfold dropDigest
  cases hcut : cutFirst? '@' s with
  | none => exact List.prefix_refl s
  | some parts =>
    obtain ⟨name, digest⟩ := parts
    obtain ⟨hs, _⟩ := cutFirst?_eq_some_iff.1 hcut
    exact ⟨'@' :: digest, hs.symm⟩

theorem isPrefix_dropTag (s : List Char) : dropTag s <+: s := by
  unfold dropTag
  cases hcut : cutLast? ':' s with
  | none => exact List.prefix_refl s
  | some parts =>
    obtain ⟨name, tag⟩ := parts
    obtain ⟨hs, _⟩ := cutLast?_eq_some_iff.1 hcut
    exact ⟨':' :: tag, hs.symm⟩

theorem isPrefix_stripTag (ref : String) : (stripTag ref).toList <+: ref.toList := by
  refine List.IsPrefix.trans ?_ (isPrefix_dropDigest ref.toList)
  unfold stripTag
  dsimp only
  rw [String.toList_ofList]
  cases hcut : cutLast? '/' (dropDigest ref.toList) with
  | none => exact isPrefix_dropTag _
  | some parts =>
    obtain ⟨parents, last⟩ := parts
    obtain ⟨hname, _⟩ := cutLast?_eq_some_iff.1 hcut
    rw [hname, List.prefix_append_right_inj, List.cons_prefix_cons]
    exact ⟨rfl, isPrefix_dropTag last⟩

/-! ## What is left behind the first component -/

variable {front s : List Char}

theorem dropDigest_append (hfront : '@' ∉ front) (s : List Char) :
    dropDigest (front ++ s) = front ++ dropDigest s := by
  unfold dropDigest
  cases hcut : cutFirst? '@' s with
  | none =>
    have hnot : '@' ∉ front ++ s := List.not_mem_append hfront (cutFirst?_eq_none_iff.1 hcut)
    rw [cutFirst?_eq_none_iff.2 hnot]
  | some parts =>
    obtain ⟨name, digest⟩ := parts
    obtain ⟨rfl, hname⟩ := cutFirst?_eq_some_iff.1 hcut
    have hnot : '@' ∉ front ++ name := List.not_mem_append hfront hname
    rw [← List.append_assoc, cutFirst?_eq_some_iff.2 ⟨rfl, hnot⟩]

theorem cutLast?_append {sep : Char} {before after : List Char} (front : List Char)
    (h : cutLast? sep s = some (before, after)) :
    cutLast? sep (front ++ s) = some (front ++ before, after) := by
  obtain ⟨rfl, hafter⟩ := cutLast?_eq_some_iff.1 h
  exact cutLast?_eq_some_iff.2 ⟨by simp, hafter⟩

theorem stripTag_append {ref : String} {first path : List Char}
    (href : ref.toList = first ++ '/' :: path) (hfirst : '@' ∉ first) :
    stripTag ref = .ofList (first ++ '/' :: (stripTag (.ofList path)).toList) := by
  have hdigest : dropDigest ref.toList = first ++ '/' :: dropDigest path := by
    have hslash : '@' ∉ ['/'] := by decide
    rw [href, dropDigest_append hfirst]
    exact congrArg (first ++ ·) (dropDigest_append hslash path)
  unfold stripTag
  dsimp only
  rw [hdigest, String.toList_ofList, String.toList_ofList]
  cases hlast : cutLast? '/' (dropDigest path) with
  | none =>
    -- the slash behind the first component is the last one
    have hnot : '/' ∉ dropDigest path := cutLast?_eq_none_iff.1 hlast
    have hcut : cutLast? '/' (first ++ '/' :: dropDigest path) = some (first, dropDigest path) :=
      cutLast?_eq_some_iff.2 ⟨rfl, hnot⟩
    rw [hcut]
  | some parts =>
    obtain ⟨parents, last⟩ := parts
    have hcut : cutLast? '/' (first ++ '/' :: dropDigest path) =
        some (first ++ '/' :: parents, last) := by
      have hcons := cutLast?_append ['/'] hlast
      exact cutLast?_append first hcons
    rw [hcut]
    simp

/-! ## The parts that are left -/

variable {ref : String}

theorem behindFirst_stripTag_of_nil (h : behindFirst ref = []) :
    behindFirst (stripTag ref) = [] := by
  rw [behindFirst_eq_nil_iff] at h ⊢
  intro hslash
  exact h ((isPrefix_stripTag ref).subset hslash)

theorem parts_stripTag (hslash : behindFirst ref ≠ []) (hat : '@' ∉ firstComponent ref) :
    firstComponent (stripTag ref) = firstComponent ref ∧
      behindFirst (stripTag ref) = '/' :: (stripTag (.ofList (behindFirst ref).tail)).toList := by
  obtain ⟨href, hfirst⟩ := toList_eq_parts hslash
  apply parts_of_append ?_ hfirst
  rw [stripTag_append href hat, String.toList_ofList]

theorem namesHost_stripTag (hat : behindFirst ref ≠ [] → '@' ∉ firstComponent ref) :
    NamesHost (stripTag ref) ↔ NamesHost ref := by
  by_cases hslash : behindFirst ref = []
  · have hleft : behindFirst (stripTag ref) = [] := behindFirst_stripTag_of_nil hslash
    exact ⟨fun hnames => absurd hleft hnames.1, fun hnames => absurd hslash hnames.1⟩
  · obtain ⟨hfirst, hbehind⟩ := parts_stripTag hslash (hat hslash)
    unfold NamesHost
    rw [hfirst, hbehind]
    exact and_congr_left fun _ => iff_of_true (List.cons_ne_nil _ _) hslash

/-- **Tag and digest do not matter for routing.** Where no `@` stands before the first slash, if
there is a slash, a reference without its tag and digest names the same registry, the path without
them, and an image that goes to the same client. -/
theorem tag_ignored {ref : String} (hat : behindFirst ref ≠ [] → '@' ∉ firstComponent ref) :
    registryHost (stripTag ref) = registryHost ref ∧
    repositoryPath (stripTag ref) = stripTag (repositoryPath ref) ∧
    (∀ hosts : HostSet, hosts.contains (stripTag ref) = hosts.contains ref) ∧
    ∀ fallback clients, (Dispatcher.ofEntries fallback clients).select (stripTag ref) =
      (Dispatcher.ofEntries fallback clients).select ref := by
  have hnames := namesHost_stripTag hat
  have hhost : registryHost (stripTag ref) = registryHost ref := by
    rw [registryHost_eq, registryHost_eq]
    by_cases href : NamesHost ref
    · rw [if_pos (hnames.2 href), if_pos href, (parts_stripTag href.1 (hat href.1)).1]
    · rw [if_neg fun hleft => href (hnames.1 hleft), if_neg href]
  have hpath : repositoryPath (stripTag ref) = stripTag (repositoryPath ref) := by
    rw [repositoryPath_eq, repositoryPath_eq]
    by_cases href : NamesHost ref
    · rw [if_pos (hnames.2 href), if_pos href, (parts_stripTag href.1 (hat href.1)).2]
      exact String.ofList_toList
    · rw [if_neg fun hleft => href (hnames.1 hleft), if_neg href]
  have hlower := congrArg lowerAscii hhost
  exact ⟨hhost, hpath, HostSet.contains_congr hlower, Dispatcher.select_congr hlower⟩

/-- A port before the tag, and a digest with a slash and a colon in it. -/
theorem tag_ignored_of_port :
    (behindFirst "localhost:5000/team/app:v1@sha256:a/b:c" ≠ [] →
      '@' ∉ firstComponent "localhost:5000/team/app:v1@sha256:a/b:c") ∧
    stripTag "localhost:5000/team/app:v1@sha256:a/b:c" = "localhost:5000/team/app" ∧
    registryHost "localhost:5000/team/app" =
      registryHost "localhost:5000/team/app:v1@sha256:a/b:c" ∧
    repositoryPath "localhost:5000/team/app" =
      stripTag (repositoryPath "localhost:5000/team/app:v1@sha256:a/b:c") := by
  have hat : behindFirst "localhost:5000/team/app:v1@sha256:a/b:c" ≠ [] →
      '@' ∉ firstComponent "localhost:5000/team/app:v1@sha256:a/b:c" := fun _ => by decide
  have hleft : stripTag "localhost:5000/team/app:v1@sha256:a/b:c" = "localhost:5000/team/app" := by
    decide
  obtain ⟨hhost, hpath, _⟩ := tag_ignored hat
  rw [hleft] at hhost hpath
  exact ⟨hat, hleft, hhost, hpath⟩

/-- An `@` in the first component takes the slash away, and the host with it. -/
example : registryHost "quay.io@team/app" = "quay.io@team" ∧
    registryHost (stripTag "quay.io@team/app") = defaultRegistry := by decide

end LatestTag.Reference
