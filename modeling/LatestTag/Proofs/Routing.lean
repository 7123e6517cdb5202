import LatestTag.Dispatcher
import Mathlib.Data.List.Find

/-!
# Images are routed by their hosts

A reference falls into its first component and what comes from the first slash on. Whether it names
a host is decided on these two, and so are the registry and the path of the repository
(`registryHost_eq`, `repositoryPath_eq`). A client that was told which hosts it serves sees nothing
of a reference but its host in lower case, and a dispatcher among such clients sees no more:

> `HostSet.contains_congr`, `Dispatcher.select_congr`: references whose hosts differ at most in
> letter case belong to the same host sets and go to the same client.
-/

namespace LatestTag

/-! ## The parts of a reference -/

namespace Text

/-- The first cut in closed form. -/
theorem cutFirst?_eq (sep : Char) (s : List Char) :
    cutFirst? sep s = ((s.dropWhile (· != sep)).tail?).map fun after =>
      (s.takeWhile (· != sep), after) := by
  induction s with
  | nil => rfl
  | cons c rest ih =>
    by_cases h : c = sep
    · simp [cutFirst?, h]
    · simp [cutFirst?, h, ih, Function.comp_def]

end Text

open Text (cutFirst? cutFirst?_eq cutFirst?_eq_none_iff cutFirst?_eq_some_iff lowerAscii)

namespace Reference

/-- What stands before the first slash. -/
def firstComponent (ref : String) : List Char := ref.toList.takeWhile (· != '/')

/-- What comes from the first slash on; nothing if there is no slash. -/
def behindFirst (ref : String) : List Char := ref.toList.dropWhile (· != '/')

variable {ref : String} {first path : List Char}

theorem behindFirst_eq_nil_iff : behindFirst ref = [] ↔ '/' ∉ ref.toList := by
  rw [← cutFirst?_eq_none_iff, cutFirst?_eq]
  show behindFirst ref = [] ↔
    ((behindFirst ref).tail?).map (fun after => (firstComponent ref, after)) = none
  cases behindFirst ref with
  | nil => simp
  | cons c path => simp

theorem parts_of_append (href : ref.toList = first ++ '/' :: path) (hfirst : '/' ∉ first) :
    firstComponent ref = first ∧ behindFirst ref = '/' :: path := by
  have hplain : ∀ c ∈ first, (c != '/') = true := by
    intro c hc
    exact bne_iff_ne.2 fun hslash => hfirst (hslash ▸ hc)
  unfold firstComponent behindFirst
  rw [href, List.takeWhile_append_of_pos hplain, List.dropWhile_append_of_pos hplain]
  simp

theorem toList_eq_parts (h : behindFirst ref ≠ []) :
    ref.toList = firstComponent ref ++ '/' :: (behindFirst ref).tail ∧
      '/' ∉ firstComponent ref := by
  apply cutFirst?_eq_some_iff.1
  rw [cutFirst?_eq]
  show ((behindFirst ref).tail?).map (fun after => (firstComponent ref, after)) = _
  obtain ⟨c, path, hbehind⟩ := List.exists_cons_of_ne_nil h
  rw [hbehind]
  rfl

/-- The reference says on which registry the image lives. -/
def NamesHost (ref : String) : Prop := behindFirst ref ≠ [] ∧ LooksLikeHost (firstComponent ref)

instance (ref : String) : Decidable (NamesHost ref) := inferInstanceAs (Decidable (_ ∧ _))

theorem splitHost?_eq (ref : String) :
    splitHost? ref.toList =
      if NamesHost ref then some (firstComponent ref, (behindFirst ref).tail) else none := by
  unfold splitHost?
  rw [cutFirst?_eq]
  show (((behindFirst ref).tail?).map fun after => (firstComponent ref, after)).filter _ = _
  cases hbehind : behindFirst ref with
  | nil =>
    have hnot : ¬ NamesHost ref := fun h => h.1 hbehind
    rw [if_neg hnot]
    rfl
  | cons c path =>
    by_cases hfirst : LooksLikeHost (firstComponent ref)
    · have hnames : NamesHost ref := ⟨by rw [hbehind]; exact List.cons_ne_nil c path, hfirst⟩
      rw [if_pos hnames]
      simp [hfirst]
    · have hnot : ¬ NamesHost ref := fun h => hfirst h.2
      rw [if_neg hnot]
      simp [hfirst]

theorem registryHost_eq (ref : String) :
    registryHost ref = if NamesHost ref then .ofList (firstComponent ref) else defaultRegistry := by
  unfold registryHost
  rw [splitHost?_eq]
  by_cases h : NamesHost ref
  · rw [if_pos h, if_pos h]
  · rw [if_neg h, if_neg h]

theorem repositoryPath_eq (ref : String) :
    repositoryPath ref = if NamesHost ref then .ofList (behindFirst ref).tail else ref := by
  unfold repositoryPath
  rw [splitHost?_eq]
  by_cases h : NamesHost ref
  · rw [if_pos h, if_pos h]
  · rw [if_neg h, if_neg h]

end Reference

/-! ## Routing -/

open Reference (registryHost)

variable {ref ref' : String}

theorem HostSet.contains_congr (h : lowerAscii (registryHost ref) = lowerAscii (registryHost ref'))
    (hosts : HostSet) : hosts.contains ref = hosts.contains ref' := by
  unfold HostSet.contains
  rw [h]

namespace Dispatcher

/-- A dispatcher among clients that serve the hosts of some entries, each with its name. -/
def ofEntries (fallback : Client) (clients : List (String × List String)) : Dispatcher :=
  ⟨clients.map fun (name, entries) => .ofHosts name (.ofList entries), fallback⟩

theorem select_congr (h : lowerAscii (registryHost ref) = lowerAscii (registryHost ref'))
    (fallback : Client) (clients : List (String × List String)) :
    (ofEntries fallback clients).select ref = (ofEntries fallback clients).select ref' := by
  have hserves : ∀ client ∈ (ofEntries fallback clients).clients,
      client.serves ref = client.serves ref' := by
    intro client hclient
    obtain ⟨⟨name, entries⟩, _, rfl⟩ := List.mem_map.1 hclient
    exact HostSet.contains_congr h (.ofList entries)
  unfold select
  rw [List.find?_congr hserves]

end Dispatcher

end LatestTag
