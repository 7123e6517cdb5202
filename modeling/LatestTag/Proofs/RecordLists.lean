import LatestTag.Proofs.RecordObjects

/-!
# Records are read from lists in any layout

A list has the values of the fields of a record in the order of the fields, and those of the last
ones may be missing. The loop over the items has no fuel: it goes along the fields, and ends in
front of the bracket, which is taken behind it.

> `reader_listText`: a list gives what its items make of the empty state, each put into the field at
> its place.
-/

namespace LatestTag.Json

namespace Record

variable {σ α : Type} {record : Record σ α}

/-- What the value at its place makes of the field. -/
def place (state : σ) (slot : Field σ × List Char) : Except Problem σ :=
  (slot.1.fill state).outcome slot.2

theorem items_bracket (blank : Blank) (isFirst : Bool) (state : σ) (fields : List (Field σ))
    (rest : List Char) :
    ∃ back : Blank, items isFirst state fields (blank.chars ++ ']' :: rest) =
      .ok (state, back.chars ++ ']' :: rest) := by
  cases fields with
  | nil => exact ⟨blank, rfl⟩
  | cons field fields =>
    refine ⟨.none, ?_⟩
    rw [items, Reader.bind_of_ok (Reader.peek_blank blank rfl rest), if_pos rfl]
    rfl

/-- Items with a comma before each of them. -/
def moreText (items : List Item) : List Char := items.flatMap fun item => ',' :: item.text

theorem isEnd_moreText (items : List Item) (rest : List Char) :
    IsEnd (moreText items ++ ']' :: rest) := by
  intro c hc
  cases items with
  | nil =>
    obtain rfl := Option.some.inj hc
    decide
  | cons item items =>
    obtain rfl := Option.some.inj hc
    decide

section Places

variable {Says : Field σ → σ → List Char → σ → Prop} {item : Item} {field : Field σ}
  (hdecodes : ∀ state, Decodes (field.fill state) (Says field state)) (hvalue : IsValue item.value)
  {back : List Char} (hback : IsEnd back)
include hdecodes hvalue hback

/-- Behind the value of an item the loop goes on with what is made of it. -/
theorem fill_bind (fields : List (Field σ)) (blank : Blank) (state : σ) :
    (field.fill state >>= fun next => items false next fields)
        (blank.chars ++ (item.value ++ back)) =
      place state (field, item.value) >>= fun next => items false next fields back := by
  show (field.fill state (blank.chars ++ (item.value ++ back)) >>= _) = _
  rw [(hdecodes state).yields hvalue blank back hback]
  show _ = (field.fill state).outcome item.value >>= _
  cases (field.fill state).outcome item.value with
  | ok next => rfl
  | error problem => rfl

/-- **The first turn** of the loop takes one item. -/
theorem items_first (fields : List (Field σ)) (blank : Blank) (state : σ) :
    items true state (field :: fields) (blank.chars ++ (item.value ++ back)) =
      place state (field, item.value) >>= fun next => items false next fields back := by
  obtain ⟨first, hkind⟩ := hvalue.exists_kind
  rw [items, Reader.bind_of_ok (hkind.peek blank back), if_neg hkind.not_end]
  dsimp only
  rw [if_neg (by decide)]
  exact fill_bind hdecodes hvalue hback fields .none state

/-- **Each other turn** takes one item and the comma before it. -/
theorem items_next (fields : List (Field σ)) (blank : Blank) (state : σ) :
    items false state (field :: fields)
        (blank.chars ++ ',' :: (item.before.chars ++ (item.value ++ back))) =
      place state (field, item.value) >>= fun next => items false next fields back := by
  obtain ⟨first, hkind⟩ := hvalue.exists_kind
  have hskip : Reader.skip (',' :: (item.before.chars ++ (item.value ++ back))) =
      .ok ((), item.before.chars ++ (item.value ++ back)) := rfl
  rw [items, Reader.bind_of_ok (Reader.peek_blank blank rfl _), if_neg (by decide)]
  dsimp only
  rw [if_pos (by decide), if_pos rfl, Reader.bind_of_ok hskip,
    Reader.bind_of_ok (hkind.peek item.before back), if_neg hkind.not_end]
  exact fill_bind hdecodes hvalue hback fields .none state

end Places

section Loop

variable {Says : Field σ → σ → List Char → σ → Prop}

/-- **The loop** makes of the items what each makes of the field at its place. -/
theorem items_moreText {items : List Item} (hvalues : ∀ item ∈ items, IsValue item.value)
    {fields : List (Field σ)}
    (hfields : ∀ field ∈ fields, ∀ state, Decodes (field.fill state) (Says field state))
    (hlength : items.length ≤ fields.length) (blank : Blank) (state : σ) (rest : List Char) :
    ∃ back : Blank,
      Record.items false state fields (blank.chars ++ (moreText items ++ ']' :: rest)) =
        ((fields.zip (items.map Item.value)).foldlM place state).map
          (·, back.chars ++ ']' :: rest) := by
  induction items generalizing fields blank state with
  | nil =>
    rw [List.map_nil, List.zip_nil_right]
    exact items_bracket blank false state fields rest
  | cons item items ih =>
    cases fields with
    | nil => exact absurd hlength (by simp)
    | cons field fields =>
      rw [List.length_cons, List.length_cons] at hlength
      have hcons : moreText (item :: items) ++ ']' :: rest =
          ',' :: (item.before.chars ++ (item.value ++
            (item.behind.chars ++ (moreText items ++ ']' :: rest)))) := by
        simp [moreText, Item.text]
      rw [hcons, items_next (hfields field List.mem_cons_self) (hvalues item List.mem_cons_self)
        (isEnd_blank item.behind (isEnd_moreText items rest)), List.map_cons, List.zip_cons_cons,
        List.foldlM_cons]
      cases place state (field, item.value) with
      | ok next =>
        exact ih (fun i hi => hvalues i (List.mem_cons_of_mem _ hi))
          (fun f hf => hfields f (List.mem_cons_of_mem _ hf)) (by omega) item.behind next
      | error problem => exact ⟨item.behind, rfl⟩

/-- The items as they stand in a list, with a comma between two of them. -/
def itemsText (items : List Item) : List Char := [','].intercalate (items.map Item.text)

theorem itemsText_cons (item : Item) (items : List Item) :
    itemsText (item :: items) =
      item.before.chars ++ (item.value ++ (item.behind.chars ++ moreText items)) := by
  rw [itemsText, List.map_cons, intercalate_comma, List.flatMap_map, Item.text]
  simp [moreText]

theorem items_itemsText {items : List Item} (hvalues : ∀ item ∈ items, IsValue item.value)
    {fields : List (Field σ)}
    (hfields : ∀ field ∈ fields, ∀ state, Decodes (field.fill state) (Says field state))
    (hlength : items.length ≤ fields.length) (blank : Blank) (state : σ) (rest : List Char) :
    ∃ back : Blank,
      Record.items true state fields (blank.chars ++ (itemsText items ++ ']' :: rest)) =
        ((fields.zip (items.map Item.value)).foldlM place state).map
          (·, back.chars ++ ']' :: rest) := by
  cases items with
  | nil =>
    rw [List.map_nil, List.zip_nil_right]
    exact items_bracket blank true state fields rest
  | cons item items =>
    cases fields with
    | nil => exact absurd hlength (by simp)
    | cons field fields =>
      rw [List.length_cons, List.length_cons] at hlength
      have htext : blank.chars ++ (itemsText (item :: items) ++ ']' :: rest) =
          (blank.append item.before).chars ++ (item.value ++
            (item.behind.chars ++ (moreText items ++ ']' :: rest))) := by
        simp [itemsText_cons, Blank.append]
      rw [htext, items_first (hfields field List.mem_cons_self) (hvalues item List.mem_cons_self)
        (isEnd_blank item.behind (isEnd_moreText items rest)), List.map_cons, List.zip_cons_cons,
        List.foldlM_cons]
      cases place state (field, item.value) with
      | ok next =>
        exact items_moreText (fun i hi => hvalues i (List.mem_cons_of_mem _ hi))
          (fun f hf => hfields f (List.mem_cons_of_mem _ hf)) (by omega) item.behind next rest
      | error problem => exact ⟨item.behind, rfl⟩

theorem endOfList_bracket (blank : Blank) (rest : List Char) :
    endOfList (blank.chars ++ ']' :: rest) = .ok ((), rest) := by
  unfold endOfList
  rw [Reader.bind_of_ok (Reader.peek_blank blank rfl rest), if_pos rfl]
  rfl

/-- **A list** gives what its items make of the empty state, each at its place. -/
theorem reader_listText {items : List Item} (hvalues : ∀ item ∈ items, IsValue item.value)
    (hfields : ∀ field ∈ record.fields, ∀ state, Decodes (field.fill state) (Says field state))
    (hlength : items.length ≤ record.fields.length) (lead blank : Blank) (rest : List Char) :
    record.reader (lead.chars ++ (listText blank items ++ rest)) =
      (((record.fields.zip (items.map Item.value)).foldlM place record.empty).bind
        record.ofItems).map (·, rest) := by
  have htext : listText blank items ++ rest =
      '[' :: (blank.chars ++ (itemsText items ++ ']' :: rest)) := by
    simp [listText, itemsText]
  have hskip (ahead : List Char) : Reader.skip ('[' :: ahead) = .ok ((), ahead) := rfl
  obtain ⟨back, hitems⟩ := items_itemsText hvalues hfields hlength blank record.empty rest
  rw [htext, reader, Reader.bind_of_ok (Reader.peek_blank lead rfl _), if_neg (by decide),
    if_pos rfl, Reader.bind_of_ok (hskip _)]
  show (Record.items true record.empty record.fields _ >>= _) = _
  rw [hitems]
  cases (record.fields.zip (items.map Item.value)).foldlM place record.empty with
  | error problem => rfl
  | ok final =>
    show ((record.ofItems final).map (·, back.chars ++ ']' :: rest) >>= _) =
      (record.ofItems final).map (·, rest)
    cases record.ofItems final with
    | error problem => rfl
    | ok value =>
      show (endOfList (back.chars ++ ']' :: rest) >>= _) = _
      rw [endOfList_bracket]
      rfl

end Loop

end Record

end LatestTag.Json
