import LatestTag.Proofs.Precedence
import LatestTag.Request

/-!
# The latest tag is the first of the greatest

A selection goes through the tags once and keeps the best one so far; a later tag takes its place
only by exceeding it. This file says what comes out of that, for tags in any order and with any
number of ties:

> `firstGreatest_eq_some_iff`: of entries in the order of their positions, the loop keeps the one
> that exceeds all entries before it and that no entry behind it exceeds.

This needs of `exceeds` only that it ranks (`Ranks`), as a strict order between classes of equals
does; that precedence does so is `TransCmp Version.compare`. For the latest tag by version it yields

> `select_by_version`: no tag is selected exactly if none is eligible; otherwise there is exactly
> one position whose tag is eligible, is above every eligible tag before it and at least every
> eligible tag behind it, and the tag there is selected.
-/

namespace LatestTag

/-! ## The loop -/

/-- `exceeds` compares as a strict order between classes of equals does. -/
structure Ranks {β : Type} (exceeds : β → β → Bool) : Prop where
  asymm : ∀ {a b}, exceeds a b = true → exceeds b a = false
  le_trans : ∀ {a b c}, exceeds a b = false → exceeds b c = false → exceeds a c = false

namespace Ranks

variable {β : Type} {exceeds : β → β → Bool} {a b c : β}

theorem trans (hr : Ranks exceeds) (hab : exceeds a b = true) (hbc : exceeds b c = true) :
    exceeds a c = true := by
  cases hac : exceeds a c with
  | true => rfl
  | false =>
    have hba := hr.le_trans hac (hr.asymm hbc)
    rw [hab] at hba
    cases hba

theorem trans_of_not (hr : Ranks exceeds) (hab : exceeds a b = true) (hcb : exceeds c b = false) :
    exceeds a c = true := by
  cases hac : exceeds a c with
  | true => rfl
  | false =>
    have hba := hr.le_trans hac hcb
    rw [hab] at hba
    cases hba

end Ranks

/-- A comparison ranks by `.gt`. -/
theorem ranks_of_transCmp {β : Type} {cmp : β → β → Ordering} [Std.TransCmp cmp] :
    Ranks fun a b => cmp a b == .gt where
  asymm {a b} hab := by
    rw [beq_iff_eq] at hab
    rw [beq_eq_false_iff_ne]
    exact Std.OrientedCmp.not_gt_of_gt hab
  le_trans {a b c} hab hbc := by
    rw [beq_eq_false_iff_ne, ne_eq, ← Ordering.isLE_iff_ne_gt] at hab hbc ⊢
    exact Std.TransCmp.isLE_trans hab hbc

/-- The entry exceeds all that have earlier positions, and none that has a later one exceeds it. -/
def IsFirstGreatest {β : Type} (exceeds : β → β → Bool) (entries : List (Nat × β))
    (best : Nat × β) : Prop :=
  best ∈ entries ∧ ∀ entry ∈ entries, (entry.1 < best.1 → exceeds best.2 entry.2 = true) ∧
    (best.1 < entry.1 → exceeds entry.2 best.2 = false)

section Loop

variable {β : Type} {exceeds : β → β → Bool} {entries : List (Nat × β)} {best other : Nat × β}

/-- The loop keeps the first greatest entry. The induction is on the entries that are still to
come; the one that is the best so far stands for all before it. -/
theorem isFirstGreatest_foldl (hr : Ranks exceeds) {first : Nat × β}
    (hpos : (first :: entries).Pairwise (·.1 < ·.1)) :
    IsFirstGreatest exceeds (first :: entries)
      (entries.foldl (fun best entry => if exceeds entry.2 best.2 then entry else best) first) := by
  induction entries generalizing first with
  | nil =>
    refine ⟨List.mem_cons_self, fun entry hentry => ?_⟩
    obtain rfl := List.mem_singleton.1 hentry
    exact ⟨fun h => absurd h (Nat.lt_irrefl _), fun h => absurd h (Nat.lt_irrefl _)⟩
  | cons second entries ih =>
    have htail := (List.pairwise_cons.1 hpos).2
    have hfirst := (List.pairwise_cons.1 hpos).1
    have hsecond := (List.pairwise_cons.1 htail).1
    have hlt : first.1 < second.1 := hfirst second List.mem_cons_self
    rw [List.foldl_cons]
    cases hexceeds : exceeds second.2 first.2 with
    | true =>
      rw [if_pos rfl]
      obtain ⟨hmem, hbest⟩ := ih htail
      generalize entries.foldl _ second = best at hmem hbest
      refine ⟨List.mem_cons_of_mem _ hmem, fun entry hentry => ?_⟩
      rcases List.mem_cons.1 hentry with rfl | hentry
      · -- the first entry is exceeded by the second, and that by the best one
        have hentry_lt : entry.1 < best.1 := hfirst best hmem
        refine ⟨fun _ => ?_, fun h => absurd h (Nat.lt_asymm hentry_lt)⟩
        rcases List.mem_cons.1 hmem with rfl | hbest_mem
        · exact hexceeds
        · exact hr.trans ((hbest second List.mem_cons_self).1 (hsecond best hbest_mem)) hexceeds
      · exact hbest entry hentry
    | false =>
      rw [if_neg (by simp)]
      have hskip : (first :: entries).Pairwise (·.1 < ·.1) :=
        List.pairwise_cons.2
          ⟨fun entry hentry => hfirst entry (List.mem_cons_of_mem _ hentry),
            (List.pairwise_cons.1 htail).2⟩
      obtain ⟨hmem, hbest⟩ := ih hskip
      generalize entries.foldl _ first = best at hmem hbest
      have hmem' : best ∈ first :: second :: entries := by
        rcases List.mem_cons.1 hmem with rfl | hmem
        · exact List.mem_cons_self
        · exact List.mem_cons_of_mem _ (List.mem_cons_of_mem _ hmem)
      refine ⟨hmem', fun entry hentry => ?_⟩
      rcases List.mem_cons.1 hentry with rfl | hentry
      · exact hbest entry List.mem_cons_self
      · rcases List.mem_cons.1 hentry with rfl | hentry
        · -- the second entry does not exceed the first, which the best one exceeds or is
          rcases List.mem_cons.1 hmem with rfl | hbest_mem
          · exact ⟨fun h => absurd h (Nat.lt_asymm hlt), fun _ => hexceeds⟩
          · have hbest_lt : entry.1 < best.1 := hsecond best hbest_mem
            have hover := (hbest first List.mem_cons_self).1 (Nat.lt_trans hlt hbest_lt)
            exact ⟨fun _ => hr.trans_of_not hover hexceeds,
              fun h => absurd h (Nat.lt_asymm hbest_lt)⟩
        · exact hbest entry (List.mem_cons_of_mem _ hentry)

/-- Two entries cannot both be the first greatest: each would exceed or not exceed the other. -/
theorem IsFirstGreatest.unique (hpos : entries.Pairwise (·.1 < ·.1))
    (hbest : IsFirstGreatest exceeds entries best)
    (hother : IsFirstGreatest exceeds entries other) :
    best = other := by
  rcases Nat.lt_trichotomy best.1 other.1 with hlt | heq | hlt
  · have hyes := (hother.2 best hbest.1).1 hlt
    have hno := (hbest.2 other hother.1).2 hlt
    rw [hyes] at hno
    cases hno
  · obtain ⟨i, hi, rfl⟩ := List.getElem_of_mem hbest.1
    obtain ⟨j, hj, rfl⟩ := List.getElem_of_mem hother.1
    rcases Nat.lt_trichotomy i j with hij | rfl | hji
    · exact absurd heq (Nat.ne_of_lt (List.pairwise_iff_getElem.1 hpos i j hi hj hij))
    · rfl
    · exact absurd heq.symm (Nat.ne_of_lt (List.pairwise_iff_getElem.1 hpos j i hj hi hji))
  · have hyes := (hbest.2 other hother.1).1 hlt
    have hno := (hother.2 best hbest.1).2 hlt
    rw [hyes] at hno
    cases hno

theorem firstGreatest_eq_none_iff : firstGreatest exceeds entries = none ↔ entries = [] := by
  cases entries <;> simp [firstGreatest]

theorem firstGreatest_eq_some_iff (hr : Ranks exceeds) (hpos : entries.Pairwise (·.1 < ·.1)) :
    firstGreatest exceeds entries = some best ↔ IsFirstGreatest exceeds entries best := by
  cases entries with
  | nil => simp [firstGreatest, IsFirstGreatest]
  | cons first entries =>
    have hloop := isFirstGreatest_foldl hr hpos
    constructor
    · intro h
      obtain rfl := Option.some.inj h
      exact hloop
    · intro h
      exact congrArg some (hloop.unique hpos h)

/-- What is kept of elements with their positions stands in the order of these. -/
theorem pairwise_filterMap_zipIdx {α : Type} {keeps? : α × Nat → Option (Nat × β)}
    (hkeeps : ∀ x i, ∀ entry ∈ keeps? (x, i), entry.1 = i) (l : List α) :
    (l.zipIdx.filterMap keeps?).Pairwise (·.1 < ·.1) := by
  have hpos : (l.zipIdx.map Prod.snd).Pairwise (· < ·) := by
    rw [List.zipIdx_map_snd]
    exact List.pairwise_lt_range'
  rw [List.pairwise_filterMap]
  refine List.Pairwise.imp ?_ (List.pairwise_map.1 hpos)
  intro a b hlt x hx y hy
  rw [hkeeps a.1 a.2 x hx, hkeeps b.1 b.2 y hy]
  exact hlt

end Loop

/-! ## The latest tag by version -/

/-- The options leave the tag, which stands for the version: the pattern matches the text of the tag
as it is, pre-releases only count if asked for, and every pin is kept. -/
structure Eligible (options : Options) (tag : ImageTag) (version : Version) : Prop where
  version_eq : Version.ofTag? tag.tag = some version
  pattern : ∀ pattern ∈ options.pattern, pattern.isMatch tag.tag = true
  pre : version.pre = [] ∨ options.usePreRelease = true
  major : ∀ number ∈ options.pinMajor, version.major = number
  minor : ∀ number ∈ options.pinMinor, version.minor = number
  patch : ∀ number ∈ options.pinPatch, version.patch = number

/-- The tag at the position is eligible, every eligible tag before it has lower precedence, and no
eligible tag behind it has higher precedence. -/
def IsLatest (options : Options) (tags : List ImageTag) (position : Nat) : Prop :=
  ∃ tag version, tags[position]? = some tag ∧ Eligible options tag version ∧
    (∀ i < position, ∀ other otherVersion, tags[i]? = some other →
      Eligible options other otherVersion → otherVersion.compare version = .lt) ∧
    (∀ i > position, ∀ other otherVersion, tags[i]? = some other →
      Eligible options other otherVersion → (otherVersion.compare version).isLE)

theorem pinAdmits_iff (pin : Option UInt64) (number : UInt64) :
    pinAdmits pin number = true ↔ ∀ pinned ∈ pin, number = pinned := by
  cases pin with
  | none => simp [pinAdmits]
  | some pinned =>
    rw [pinAdmits, Option.all_some, beq_iff_eq]
    constructor
    · intro heq other hother
      rw [← heq]
      exact Option.some.inj hother
    · exact fun h => (h pinned rfl).symm

/-- What the options leave, test by test. -/
theorem eligible?_eq_some_iff {options : Options} {tag : ImageTag} {version : Version} :
    options.eligible? tag = some version ↔ Eligible options tag version := by
  have hadmits : options.admits tag.tag version = true ↔
      (∀ pattern ∈ options.pattern, pattern.isMatch tag.tag = true) ∧
        (version.pre = [] ∨ options.usePreRelease = true) ∧
        (∀ number ∈ options.pinMajor, version.major = number) ∧
        (∀ number ∈ options.pinMinor, version.minor = number) ∧
        (∀ number ∈ options.pinPatch, version.patch = number) := by
    simp only [Options.admits, Bool.and_eq_true, Bool.or_eq_true, pinAdmits_iff, Version.isPre,
      Bool.not_not, List.isEmpty_iff, Option.all_eq_true, and_assoc, Option.mem_def]
  rw [Options.eligible?, Option.filter_eq_some_iff, hadmits]
  constructor
  · intro h
    obtain ⟨hversion, hpattern, hpre, hmajor, hminor, hpatch⟩ := h
    exact ⟨hversion, hpattern, hpre, hmajor, hminor, hpatch⟩
  · intro h
    obtain ⟨hversion, hpattern, hpre, hmajor, hminor, hpatch⟩ := h
    exact ⟨hversion, hpattern, hpre, hmajor, hminor, hpatch⟩

namespace Selection

/-- The eligible tags by position, each with its version: what the loop goes through. -/
def entries (options : Options) (tags : List ImageTag) : List (Nat × Version) :=
  tags.zipIdx.filterMap fun (tag, i) => (options.eligible? tag).map fun version => (i, version)

variable {options : Options} {tags : List ImageTag}

theorem mem_entries_iff {i : Nat} {version : Version} :
    (i, version) ∈ entries options tags ↔
      ∃ tag, tags[i]? = some tag ∧ Eligible options tag version := by
  simp only [entries, List.mem_filterMap, Prod.exists, Option.map_eq_some_iff, Prod.mk.injEq,
    List.mk_mem_zipIdx_iff_getElem?, eligible?_eq_some_iff]
  constructor
  · intro h
    obtain ⟨tag, j, htag, other, helig, rfl, rfl⟩ := h
    exact ⟨tag, htag, helig⟩
  · intro h
    obtain ⟨tag, htag, helig⟩ := h
    exact ⟨tag, i, htag, version, helig, rfl, rfl⟩

/-- The entries stand in the order of their positions. -/
theorem pairwise_entries : (entries options tags).Pairwise (·.1 < ·.1) := by
  refine pairwise_filterMap_zipIdx (fun tag i entry hentry => ?_) tags
  obtain ⟨_, _, rfl⟩ := Option.map_eq_some_iff.1 hentry
  rfl

theorem byVersion?_eq_none_iff :
    byVersion? options tags = none ↔ ∀ tag ∈ tags, ∀ version, ¬ Eligible options tag version := by
  show ((firstGreatest _ (entries options tags)).map _) = none ↔ _
  rw [Option.map_eq_none_iff, firstGreatest_eq_none_iff]
  constructor
  · intro hnil tag htag version helig
    obtain ⟨i, hi, rfl⟩ := List.getElem_of_mem htag
    have hmem := mem_entries_iff.2 ⟨tags[i], List.getElem?_eq_getElem hi, helig⟩
    rw [hnil] at hmem
    exact absurd hmem (by simp)
  · intro hnone
    refine List.eq_nil_iff_forall_not_mem.2 fun entry hentry => ?_
    obtain ⟨tag, htag, helig⟩ := mem_entries_iff.1 hentry
    exact hnone tag (List.mem_of_getElem? htag) entry.2 helig

/-- The position of the latest tag is the one that the definition of it says. -/
theorem byVersion?_eq_some_iff {i : Nat} :
    byVersion? options tags = some i ↔ IsLatest options tags i := by
  have hloop (version : Version) :
      firstGreatest (fun v best => v.compare best == .gt) (entries options tags) =
        some (i, version) ↔
      IsFirstGreatest (fun v best => v.compare best == .gt) (entries options tags) (i, version) :=
    firstGreatest_eq_some_iff ranks_of_transCmp pairwise_entries
  show ((firstGreatest _ (entries options tags)).map _) = some i ↔ _
  rw [Option.map_eq_some_iff]
  constructor
  · intro h
    obtain ⟨⟨j, version⟩, hfirst, rfl⟩ := h
    obtain ⟨hmem, hbest⟩ := (hloop version).1 hfirst
    obtain ⟨tag, htag, helig⟩ := mem_entries_iff.1 hmem
    refine ⟨tag, version, htag, helig, ?_, ?_⟩
    · intro k hk other otherVersion hother helig'
      have hexceeds := (hbest (k, otherVersion) (mem_entries_iff.2 ⟨other, hother, helig'⟩)).1 hk
      rw [beq_iff_eq] at hexceeds
      exact Std.OrientedCmp.lt_of_gt hexceeds
    · intro k hk other otherVersion hother helig'
      have hnot := (hbest (k, otherVersion) (mem_entries_iff.2 ⟨other, hother, helig'⟩)).2 hk
      rw [beq_eq_false_iff_ne] at hnot
      exact Ordering.isLE_iff_ne_gt.2 hnot
  · intro h
    obtain ⟨tag, version, htag, helig, hbefore, hbehind⟩ := h
    refine ⟨(i, version), (hloop version).2 ⟨mem_entries_iff.2 ⟨tag, htag, helig⟩, ?_⟩, rfl⟩
    intro entry hentry
    obtain ⟨k, otherVersion⟩ := entry
    obtain ⟨other, hother, helig'⟩ := mem_entries_iff.1 hentry
    constructor
    · intro hk
      rw [beq_iff_eq]
      exact Std.OrientedCmp.gt_of_lt (hbefore k hk other otherVersion hother helig')
    · intro hk
      rw [beq_eq_false_iff_ne]
      exact Ordering.isLE_iff_ne_gt.1 (hbehind k hk other otherVersion hother helig')

end Selection

/-- **The latest tag by version**: nothing is selected exactly if no tag is eligible, and then the
options are given back; otherwise there is exactly one latest position, and the tag there is
selected. -/
theorem select_by_version (options : Options) (tags : List ImageTag)
    (hversion : options.useSha = false) :
    (Request.latest options tags = .error (.noMatch options) ↔
      ∀ tag ∈ tags, ∀ version, ¬ Eligible options tag version) ∧
    ((∃ tag ∈ tags, ∃ version, Eligible options tag version) →
      ∃ i, IsLatest options tags i ∧ ∀ j, IsLatest options tags j → j = i) ∧
    (∀ i, IsLatest options tags i → ∃ tag, tags[i]? = some tag ∧
      Selection.position? options tags = some i ∧
      Request.latest options tags = .ok (.latest tag)) := by
  have hposition : Selection.position? options tags = Selection.byVersion? options tags := by
    rw [Selection.position?, hversion, if_neg (by simp)]
  have hlatest {i : Nat} (h : IsLatest options tags i) : ∃ tag, tags[i]? = some tag ∧
      Selection.position? options tags = some i ∧
      Request.latest options tags = .ok (.latest tag) := by
    have hsome := Selection.byVersion?_eq_some_iff.2 h
    obtain ⟨tag, -, htag, -⟩ := h
    rw [← hposition] at hsome
    exact ⟨tag, htag, hsome, by simp [Request.latest, select?, hsome, htag]⟩
  refine ⟨?_, ?_, fun i h => hlatest h⟩
  · rw [← Selection.byVersion?_eq_none_iff, ← hposition]
    cases hsome : Selection.position? options tags with
    | none => simp [Request.latest, select?, hsome]
    | some i =>
      obtain ⟨tag, -, -, hok⟩ := hlatest (Selection.byVersion?_eq_some_iff.1 (hposition ▸ hsome))
      simp [hok]
  · intro h
    obtain ⟨tag, htag, version, helig⟩ := h
    cases hsome : Selection.byVersion? options tags with
    | none => exact absurd helig (Selection.byVersion?_eq_none_iff.1 hsome tag htag version)
    | some i =>
      refine ⟨i, Selection.byVersion?_eq_some_iff.1 hsome, fun j hj => ?_⟩
      have hsome' := Selection.byVersion?_eq_some_iff.2 hj
      rw [hsome] at hsome'
      exact (Option.some.inj hsome').symm

/-- Tags among which the latest version comes twice, with different build metadata. -/
def ties : List ImageTag :=
  ["latest", "v1.25", "1.26.0+a", "1.27.0-rc.1", "1.26.0+b"].map fun tag => ⟨tag, "", ⟨0, 0⟩⟩

theorem select_by_version_of_ties :
    ({} : Options).useSha = false ∧ ∃ tag, ties[2]? = some tag ∧
      Selection.position? {} ties = some 2 ∧ Request.latest {} ties = .ok (.latest tag) :=
  ⟨rfl, (select_by_version {} ties rfl).2.2 2 (Selection.byVersion?_eq_some_iff.1 (by decide))⟩

end LatestTag
