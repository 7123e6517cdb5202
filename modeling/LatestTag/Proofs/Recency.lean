import LatestTag.Proofs.Latest

/-!
# The tag pushed last is the first of the most recent

If the last push decides, nothing but the times of the pushes matters: neither the texts of the tags
nor any other setting. The loop is the one that also finds the greatest version, and here it goes
through all tags:

> `select_by_push`: without tags nothing is selected; otherwise it is the tag at the first position
> whose time is not before any other, and that position is the same for all options of this kind and
> all lists with the same times.

Times are compared by their seconds and then by their nanoseconds, of which a leap second has more
than a billion; so a time within a leap second is still before the next second.
-/

namespace LatestTag

namespace Timestamp

/-- The time is not after the other one: its second comes before, or it is the same second and there
are not more nanoseconds. -/
def NotAfter (s t : Timestamp) : Prop :=
  s.seconds < t.seconds ∨ s.seconds = t.seconds ∧ s.nanos ≤ t.nanos
deriving Decidable

theorem lt_iff {s t : Timestamp} : s.lt t = true ↔ ¬ t.NotAfter s := by
  simp only [lt, NotAfter, Bool.or_eq_true, Bool.and_eq_true, decide_eq_true_iff, beq_iff_eq]
  omega

theorem lt_eq_false_iff {s t : Timestamp} : s.lt t = false ↔ t.NotAfter s := by
  rw [Bool.eq_false_iff, ne_eq, lt_iff, Decidable.not_not]

theorem NotAfter.refl (t : Timestamp) : t.NotAfter t := Or.inr ⟨rfl, Nat.le_refl _⟩

theorem NotAfter.trans {r s t : Timestamp} (hrs : r.NotAfter s) (hst : s.NotAfter t) :
    r.NotAfter t := by
  unfold NotAfter at *
  omega

/-- Of two times one is not after the other. -/
theorem NotAfter.total (s t : Timestamp) : s.NotAfter t ∨ t.NotAfter s := by
  unfold NotAfter
  omega

/-- Times rank by which of them comes later. -/
theorem ranks_lt : Ranks fun t best : Timestamp => best.lt t where
  asymm {a b} hab := by
    rw [lt_iff] at hab
    exact lt_eq_false_iff.2 ((NotAfter.total a b).resolve_left hab)
  le_trans {a b c} hab hbc := by
    rw [lt_eq_false_iff] at hab hbc ⊢
    exact hab.trans hbc

end Timestamp

/-- No tag was pushed after the one at the position. -/
def NoneLater (tags : List ImageTag) (position : Nat) : Prop :=
  ∃ tag, tags[position]? = some tag ∧ ∀ other ∈ tags, other.timestamp.NotAfter tag.timestamp

/-- No tag was pushed after the one at the position, and that is the first such position. -/
def IsLastPushed (tags : List ImageTag) (position : Nat) : Prop :=
  NoneLater tags position ∧ ∀ i < position, ¬ NoneLater tags i

namespace Selection

variable {tags others : List ImageTag}

/-- The times of the pushes by position: what the loop goes through. -/
def pushes (tags : List ImageTag) : List (Nat × Timestamp) :=
  tags.zipIdx.map fun (tag, i) => (i, tag.timestamp)

theorem mem_pushes_iff {i : Nat} {time : Timestamp} :
    (i, time) ∈ pushes tags ↔ ∃ tag, tags[i]? = some tag ∧ tag.timestamp = time := by
  simp only [pushes, List.mem_map, Prod.exists, Prod.mk.injEq, List.mk_mem_zipIdx_iff_getElem?]
  constructor
  · rintro ⟨tag, j, htag, rfl, rfl⟩
    exact ⟨tag, htag, rfl⟩
  · rintro ⟨tag, htag, rfl⟩
    exact ⟨tag, i, htag, rfl, rfl⟩

/-- The pushes stand in the order of their positions. -/
theorem pairwise_pushes : (pushes tags).Pairwise (·.1 < ·.1) := by
  rw [pushes, ← List.filterMap_eq_map]
  refine pairwise_filterMap_zipIdx (fun tag i entry hentry => ?_) tags
  obtain rfl := Option.some.inj hentry
  rfl

/-- Of the tags the loop sees the times only. -/
theorem pushes_congr (htimes : others.map ImageTag.timestamp = tags.map ImageTag.timestamp) :
    pushes others = pushes tags := by
  have htimed (tags : List ImageTag) :
      pushes tags = (tags.map ImageTag.timestamp).zipIdx.map Prod.swap := by
    rw [pushes, List.zipIdx_map, List.map_map]
    rfl
  rw [htimed, htimed, htimes]

/-- **The first greatest push** is the one that no other is after, at the first such position. -/
theorem isFirstGreatest_pushes_iff {i : Nat} {time : Timestamp} :
    IsFirstGreatest (fun t best => best.lt t) (pushes tags) (i, time) ↔
      IsLastPushed tags i ∧ (i, time) ∈ pushes tags := by
  constructor
  · rintro ⟨hmem, hbest⟩
    obtain ⟨tag, htag, rfl⟩ := mem_pushes_iff.1 hmem
    have hearlier {j : Nat} {other : ImageTag} (hj : j < i) (hother : tags[j]? = some other) :
        ¬ tag.timestamp.NotAfter other.timestamp :=
      Timestamp.lt_iff.1 ((hbest _ (mem_pushes_iff.2 ⟨other, hother, rfl⟩)).1 hj)
    have hlater {j : Nat} {other : ImageTag} (hj : i < j) (hother : tags[j]? = some other) :
        other.timestamp.NotAfter tag.timestamp :=
      Timestamp.lt_eq_false_iff.1 ((hbest _ (mem_pushes_iff.2 ⟨other, hother, rfl⟩)).2 hj)
    refine ⟨⟨⟨tag, htag, fun other hother => ?_⟩, ?_⟩, hmem⟩
    · obtain ⟨j, hother⟩ := List.mem_iff_getElem?.1 hother
      rcases Nat.lt_trichotomy j i with hlt | rfl | hlt
      · exact (Timestamp.NotAfter.total _ _).resolve_right (hearlier hlt hother)
      · obtain rfl := Option.some.inj (htag.symm.trans hother)
        exact .refl _
      · exact hlater hlt hother
    · rintro j hj ⟨other, hother, hnone⟩
      exact hearlier hj hother (hnone tag (List.mem_of_getElem? htag))
  · rintro ⟨⟨⟨tag, htag, hnone⟩, hfirst⟩, hmem⟩
    obtain ⟨tag', htag', rfl⟩ := mem_pushes_iff.1 hmem
    obtain rfl := Option.some.inj (htag.symm.trans htag')
    refine ⟨hmem, fun entry hentry => ?_⟩
    obtain ⟨j, time⟩ := entry
    obtain ⟨other, hother, rfl⟩ := mem_pushes_iff.1 hentry
    refine ⟨fun hj => Timestamp.lt_iff.2 fun hle => ?_, fun _ =>
      Timestamp.lt_eq_false_iff.2 (hnone other (List.mem_of_getElem? hother))⟩
    -- then no tag was pushed after the earlier one either
    exact hfirst j hj ⟨other, hother, fun later hlater => (hnone later hlater).trans hle⟩

theorem byPush?_eq_none_iff : byPush? tags = none ↔ tags = [] := by
  show ((firstGreatest _ (pushes tags)).map _) = none ↔ _
  rw [Option.map_eq_none_iff, firstGreatest_eq_none_iff, pushes, List.map_eq_nil_iff,
    List.zipIdx_eq_nil_iff]

theorem byPush?_eq_some_iff {i : Nat} : byPush? tags = some i ↔ IsLastPushed tags i := by
  have hloop (time : Timestamp) :
      firstGreatest (fun t best => best.lt t) (pushes tags) = some (i, time) ↔
        IsLastPushed tags i ∧ (i, time) ∈ pushes tags :=
    (firstGreatest_eq_some_iff Timestamp.ranks_lt pairwise_pushes).trans isFirstGreatest_pushes_iff
  show ((firstGreatest _ (pushes tags)).map _) = some i ↔ _
  rw [Option.map_eq_some_iff]
  constructor
  · rintro ⟨⟨j, time⟩, hfirst, rfl⟩
    exact ((hloop time).1 hfirst).1
  · intro hlast
    obtain ⟨tag, htag, -⟩ := hlast.1
    exact ⟨(i, tag.timestamp), (hloop _).2 ⟨hlast, mem_pushes_iff.2 ⟨tag, htag, rfl⟩⟩, rfl⟩

theorem position?_of_useSha {options : Options} (hpush : options.useSha = true) :
    position? options tags = byPush? tags := by
  rw [position?, hpush, if_pos rfl]

end Selection

/-- **The tag pushed last**: nothing is selected exactly if there are no tags, and then the options
are given back; otherwise there is exactly one position of the tag pushed last, and the tag there is
selected. Whatever else the options say, and whatever the texts and digests of the tags are, the
position is the same for the same times. -/
theorem select_by_push (options : Options) (tags : List ImageTag)
    (hpush : options.useSha = true) :
    (Request.latest options tags = .error (.noMatch options) ↔ tags = []) ∧
    (tags ≠ [] → ∃ i, IsLastPushed tags i ∧ ∀ j, IsLastPushed tags j → j = i) ∧
    (∀ i, IsLastPushed tags i → ∃ tag, tags[i]? = some tag ∧
      Selection.position? options tags = some i ∧
      Request.latest options tags = .ok (.latest tag)) ∧
    ∀ (other : Options) (others : List ImageTag), other.useSha = true →
      others.map ImageTag.timestamp = tags.map ImageTag.timestamp →
      Selection.position? other others = Selection.position? options tags := by
  have hposition : Selection.position? options tags = Selection.byPush? tags :=
    Selection.position?_of_useSha hpush
  have hlast {i : Nat} (h : IsLastPushed tags i) : ∃ tag, tags[i]? = some tag ∧
      Selection.position? options tags = some i ∧
      Request.latest options tags = .ok (.latest tag) := by
    have hsome := hposition.trans (Selection.byPush?_eq_some_iff.2 h)
    obtain ⟨⟨tag, htag, -⟩, -⟩ := h
    exact ⟨tag, htag, hsome, by simp [Request.latest, select?, hsome, htag]⟩
  refine ⟨?_, fun hne => ?_, fun i h => hlast h, fun other others hother htimes => ?_⟩
  · rw [← Selection.byPush?_eq_none_iff, ← hposition]
    cases hsome : Selection.position? options tags with
    | none => simp [Request.latest, select?, hsome]
    | some i =>
      obtain ⟨tag, -, -, hok⟩ := hlast (Selection.byPush?_eq_some_iff.1 (hposition ▸ hsome))
      simp [hok]
  · obtain ⟨i, hsome⟩ := Option.ne_none_iff_exists'.1 (mt Selection.byPush?_eq_none_iff.1 hne)
    refine ⟨i, Selection.byPush?_eq_some_iff.1 hsome, fun j hj => ?_⟩
    exact Option.some.inj ((Selection.byPush?_eq_some_iff.2 hj).symm.trans hsome)
  · rw [Selection.position?_of_useSha hother, hposition]
    show (firstGreatest _ (Selection.pushes others)).map _ = _
    rw [Selection.pushes_congr htimes]
    rfl

/-- Three tags, of which the first was pushed within a leap second and the others in the second
after that, both at once. -/
def pushedTogether (texts : List String) : List ImageTag :=
  texts.zipWith (fun text time => ⟨text, "", time⟩)
    [⟨1483228799, 1999999999⟩, ⟨1483228800, 0⟩, ⟨1483228800, 0⟩]

/-- The first tag of the later second is selected, if it is no version and the options have a pin as
well as if it is one. -/
theorem select_by_push_of_leap_second :
    let options : Options := { useSha := true }
    let pinned : Options := { useSha := true, pinMajor := some 9 }
    let tags := pushedTogether ["2.0.0", "1.0.0", "3.0.0"]
    let texts := pushedTogether ["9.0.0", "latest", "stable"]
    options.useSha = true ∧ IsLastPushed tags 1 ∧
      Request.latest options tags = .ok (.latest ⟨"1.0.0", "", ⟨1483228800, 0⟩⟩) ∧
      Selection.position? pinned texts = Selection.position? options tags := by
  intro options pinned tags texts
  have hfirst : IsLastPushed tags 1 := Selection.byPush?_eq_some_iff.1 (by decide)
  obtain ⟨-, -, hlast, hsame⟩ := select_by_push options tags rfl
  obtain ⟨tag, htag, -, hok⟩ := hlast 1 hfirst
  obtain rfl := Option.some.inj htag
  exact ⟨rfl, hfirst, hok, hsame pinned texts rfl rfl⟩

end LatestTag
