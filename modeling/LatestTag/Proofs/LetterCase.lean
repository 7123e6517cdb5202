import LatestTag.Proofs.Routing
import Mathlib.Tactic.ByContra

/-!
# Letter case and routing

Case does not matter in host names. A host set takes its entries in lower case, and so it takes the
host that is asked for. But whether a reference names a host is decided before that, on the text as
it is written. A dot or a colon is there in either case; `localhost`, the one host that is known by
its letters, is taken for a host only if all of them are small:

> `case_ignored_iff`: two references that differ at most in the case of the letters of their first
> component belong to the same host sets, however the entries are written, exactly if both of them
> or none begin with `localhost/` in small letters.

> `not_case_ignored`: so case is not ignored for every host.

Everything else about case goes through (`SameButCase.namesHost`): no letter is a dot, a colon or a
slash, and changing its case does not make it one.
-/

namespace LatestTag

open Reference (NamesHost behindFirst firstComponent registryHost registryHost_eq)
open Text (lowerAscii)

/-! ## Letters and other characters -/

namespace Text

/-- Nothing but a character that is no letter becomes that character. -/
theorem toLower_eq_iff {c d : Char} (hc : c.isAlpha = false) : d.toLower = c ↔ d = c := by
  unfold Char.isAlpha Char.isUpper Char.isLower at hc
  unfold Char.toLower
  split
  · next hupper =>
    -- a letter becomes a letter, so `c` would be one on either side
    constructor
    all_goals
      intro heq
      subst heq
      simp [UInt32.le_iff_toNat_le] at hc hupper
      omega
  · next => exact Iff.rfl

theorem mem_iff_of_map_toLower_eq {c : Char} (hc : c.isAlpha = false) {s s' : List Char}
    (h : s.map Char.toLower = s'.map Char.toLower) : c ∈ s ↔ c ∈ s' := by
  have hmem (s : List Char) : c ∈ s.map Char.toLower ↔ c ∈ s := by
    rw [List.mem_map]
    constructor
    · intro h
      obtain ⟨d, hd, hlower⟩ := h
      exact (toLower_eq_iff hc).1 hlower ▸ hd
    · intro h
      exact ⟨c, h, (toLower_eq_iff hc).2 rfl⟩
  rw [← hmem s, ← hmem s', h]

end Text

/-! ## Entries -/

/-- What depends on members through their keys only is the same on lists with the same keys. -/
theorem map_eq_map_of_keys {α β γ : Type} {key : α → β} {f : α → γ}
    (hf : ∀ x y, key x = key y → f x = f y) {l l' : List α} (h : l.map key = l'.map key) :
    l.map f = l'.map f := by
  induction l generalizing l' with
  | nil =>
    obtain rfl : l' = [] := List.map_eq_nil_iff.1 h.symm
    rfl
  | cons x l ih =>
    obtain ⟨y, k, rfl, hkey, hrest⟩ := List.map_eq_cons_iff.1 h.symm
    rw [List.map_cons, List.map_cons, hf x y hkey.symm, ih hrest.symm]

theorem HostSet.ofList_congr {entries entries' : List String}
    (h : entries.map lowerAscii = entries'.map lowerAscii) :
    HostSet.ofList entries = HostSet.ofList entries' := by
  have hrule (entry entry' : String) (h : lowerAscii entry = lowerAscii entry') :
      HostRule.ofText entry = HostRule.ofText entry' := by
    unfold HostRule.ofText
    rw [h]
  exact congrArg HostSet.mk (map_eq_map_of_keys hrule h)

/-- A client's name, and its entries in lower case. -/
def lowerEntries (client : String × List String) : String × List String :=
  (client.1, client.2.map lowerAscii)

theorem Dispatcher.ofEntries_congr (fallback : Client)
    {clients clients' : List (String × List String)}
    (h : clients.map lowerEntries = clients'.map lowerEntries) :
    ofEntries fallback clients = ofEntries fallback clients' := by
  have hclient (client client' : String × List String)
      (h : lowerEntries client = lowerEntries client') :
      Client.ofHosts client.1 (.ofList client.2) = .ofHosts client'.1 (.ofList client'.2) := by
    obtain ⟨hname, hentries⟩ := Prod.mk.inj h
    rw [hname, HostSet.ofList_congr hentries]
  exact congrArg (Dispatcher.mk · fallback) (map_eq_map_of_keys hclient h)

/-! ## References -/

/-- The references differ at most in the case of the letters of their first component. -/
def SameButCase (ref ref' : String) : Prop :=
  (firstComponent ref).map Char.toLower = (firstComponent ref').map Char.toLower ∧
    behindFirst ref = behindFirst ref'

instance (ref ref' : String) : Decidable (SameButCase ref ref') :=
  inferInstanceAs (Decidable (_ ∧ _))

/-- The host of the reference is `localhost`, in small letters and without a port. -/
def NamesLocalhost (ref : String) : Prop :=
  behindFirst ref ≠ [] ∧ firstComponent ref = "localhost".toList

instance (ref : String) : Decidable (NamesLocalhost ref) := inferInstanceAs (Decidable (_ ∧ _))

namespace SameButCase

variable {ref ref' : String}

theorem symm (h : SameButCase ref ref') : SameButCase ref' ref := ⟨h.1.symm, h.2.symm⟩

theorem namesHost (h : SameButCase ref ref') (hlocal : NamesLocalhost ref ↔ NamesLocalhost ref') :
    NamesHost ref ↔ NamesHost ref' := by
  unfold NamesHost
  rw [← h.2]
  by_cases hbehind : behindFirst ref = []
  · exact ⟨fun hnames => absurd hbehind hnames.1, fun hnames => absurd hbehind hnames.1⟩
  · have hdot : '.' ∈ firstComponent ref ↔ '.' ∈ firstComponent ref' :=
      Text.mem_iff_of_map_toLower_eq rfl h.1
    have hcolon : ':' ∈ firstComponent ref ↔ ':' ∈ firstComponent ref' :=
      Text.mem_iff_of_map_toLower_eq rfl h.1
    have hword : firstComponent ref = "localhost".toList ↔
        firstComponent ref' = "localhost".toList := by
      unfold NamesLocalhost at hlocal
      rw [← h.2] at hlocal
      exact (and_congr_right_iff.1 hlocal) hbehind
    exact and_congr_right fun _ => or_congr hdot (or_congr hcolon hword)

theorem lower_registryHost (h : SameButCase ref ref')
    (hlocal : NamesLocalhost ref ↔ NamesLocalhost ref') :
    lowerAscii (registryHost ref) = lowerAscii (registryHost ref') := by
  have hnames := h.namesHost hlocal
  rw [registryHost_eq, registryHost_eq]
  by_cases href : NamesHost ref
  · rw [if_pos href, if_pos (hnames.1 href)]
    unfold lowerAscii
    rw [String.toList_ofList, String.toList_ofList, h.1]
  · rw [if_neg href, if_neg fun href' => href (hnames.2 href')]

/-- **Other spellings of `localhost` are no hosts**, so the image is looked for elsewhere. -/
theorem registryHost_of_localhost (h : SameButCase ref ref') (hlocal : NamesLocalhost ref)
    (hnot : ¬ NamesLocalhost ref') :
    registryHost ref = "localhost" ∧ registryHost ref' = Reference.defaultRegistry := by
  obtain ⟨hbehind, hword⟩ := hlocal
  have hnames : NamesHost ref := ⟨hbehind, Or.inr (Or.inr hword)⟩
  have hnames' : ¬ NamesHost ref' := by
    intro hnames'
    obtain ⟨hbehind', hdot | hcolon | hword'⟩ := hnames'
    · have hdot := (Text.mem_iff_of_map_toLower_eq rfl h.1).2 hdot
      rw [hword] at hdot
      exact absurd hdot (by decide)
    · have hcolon := (Text.mem_iff_of_map_toLower_eq rfl h.1).2 hcolon
      rw [hword] at hcolon
      exact absurd hcolon (by decide)
    · exact hnot ⟨hbehind', hword'⟩
  rw [registryHost_eq, registryHost_eq, if_pos hnames, if_neg hnames', hword]
  exact ⟨rfl, rfl⟩

/-- A client for `localhost` tells the spellings apart. -/
theorem namesLocalhost_of_contains_eq (h : SameButCase ref ref')
    (hsame : (HostSet.ofList ["localhost"]).contains ref =
      (HostSet.ofList ["localhost"]).contains ref')
    (hlocal : NamesLocalhost ref) : NamesLocalhost ref' := by
  by_contra hnot
  obtain ⟨hhost, hhost'⟩ := h.registryHost_of_localhost hlocal hnot
  unfold HostSet.contains at hsame
  rw [hhost, hhost'] at hsame
  exact absurd hsame (by decide)

end SameButCase

/-- **Case is ignored except in `localhost`.** References that differ at most in the case of their
first component belong to the same host sets, whatever the case of the entries, unless just one of
them names `localhost` in small letters. If so a dispatcher sends them to the same client; and if
not, one of the images is looked for on `localhost` and the other one on the default registry. -/
theorem case_ignored_iff {ref ref' : String} (h : SameButCase ref ref') :
    ((NamesLocalhost ref ↔ NamesLocalhost ref') ↔
      ∀ entries entries', entries.map lowerAscii = entries'.map lowerAscii →
        (HostSet.ofList entries).contains ref = (HostSet.ofList entries').contains ref') ∧
    ((NamesLocalhost ref ↔ NamesLocalhost ref') →
      ∀ fallback clients clients', clients.map lowerEntries = clients'.map lowerEntries →
        (Dispatcher.ofEntries fallback clients).select ref =
          (Dispatcher.ofEntries fallback clients').select ref') ∧
    (NamesLocalhost ref → ¬ NamesLocalhost ref' →
      registryHost ref = "localhost" ∧ registryHost ref' = Reference.defaultRegistry) := by
  refine ⟨⟨?_, ?_⟩, ?_, h.registryHost_of_localhost⟩
  · intro hlocal entries entries' hentries
    rw [HostSet.ofList_congr hentries]
    exact HostSet.contains_congr (h.lower_registryHost hlocal) (.ofList entries')
  · intro hall
    have hsame := hall ["localhost"] ["localhost"] rfl
    exact ⟨h.namesLocalhost_of_contains_eq hsame, h.symm.namesLocalhost_of_contains_eq hsame.symm⟩
  · intro hlocal fallback clients clients' hclients
    rw [Dispatcher.ofEntries_congr fallback hclients]
    exact Dispatcher.select_congr (h.lower_registryHost hlocal) fallback clients'

/-- With a port the case of `localhost` is ignored, and without one it is not. -/
theorem case_ignored_iff_of_ports :
    SameButCase "LocalHost:5000/app" "localhost:5000/app" ∧
    (HostSet.ofList ["LOCALHOST:5000", "*.Example.org"]).contains "LocalHost:5000/app" =
      (HostSet.ofList ["localhost:5000", "*.example.ORG"]).contains "localhost:5000/app" ∧
    SameButCase "localhost/app" "LOCALHOST/app" ∧
    registryHost "localhost/app" = "localhost" ∧ registryHost "LOCALHOST/app" = "docker.io" := by
  have hport : SameButCase "LocalHost:5000/app" "localhost:5000/app" := by decide
  have hplain : SameButCase "localhost/app" "LOCALHOST/app" := by decide
  have hsets := (case_ignored_iff hport).1.1 (by decide)
  exact ⟨hport, hsets _ _ (by decide), hplain,
    (case_ignored_iff hplain).2.2 (by decide) (by decide)⟩

/-- A host set for `localhost` has the image `localhost/app` and does not have `LOCALHOST/app`. -/
theorem not_case_ignored :
    ¬ ∀ (entries entries' : List String) (ref ref' : String),
      entries.map lowerAscii = entries'.map lowerAscii → SameButCase ref ref' →
      (HostSet.ofList entries).contains ref = (HostSet.ofList entries').contains ref' := by
  intro hall
  have hsame := hall ["localhost"] ["localhost"] "localhost/app" "LOCALHOST/app" rfl (by decide)
  exact absurd hsame (by decide)

end LatestTag
