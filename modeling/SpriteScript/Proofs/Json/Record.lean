import SpriteScript.Proofs.Fault

namespace SpriteScript

/-! Reading records. A property of drafts that every field keeps holds at the end, whatever
the tree is; and what is read from a known tree follows field by field. -/

namespace Field

variable {Cause Draft : Type} (Keeps : Draft → Prop) {fields : List (Field Cause Draft)}

theorem fillEntries_keeps {draft filled : Draft} {entries : List (Option String × Json)}
    (each : ∀ field ∈ fields, ∀ draft tree next,
      Keeps draft → field.fill draft tree = .ok next → Keeps next)
    (kept : Keeps draft) (done : fillEntries fields draft entries = .ok filled) :
    Keeps filled := by
  induction entries generalizing draft with
  | nil =>
      cases done
      exact kept
  | cons entry rest induction =>
      rcases entry with ⟨_ | key, tree⟩
      · cases done
      · rw [fillEntries] at done
        split at done
        · next field found =>
            split at done
            · cases done
            · split at done
              · next next was =>
                  exact induction (each field (List.mem_of_find?_eq_some found) _ _ _ kept was) done
              · cases done
        · split at done
          · exact induction kept done
          · cases done

theorem fillItems_keeps {draft filled : Draft} {items : List Json}
    (each : ∀ field ∈ fields, ∀ draft tree next,
      Keeps draft → field.fill draft tree = .ok next → Keeps next)
    (kept : Keeps draft) (done : fillItems fields draft items = .ok filled) : Keeps filled := by
  induction items generalizing fields draft with
  | nil =>
      cases fields <;> cases done <;> exact kept
  | cons tree rest induction =>
      cases fields with
      | nil => cases done
      | cons field others =>
          rcases List.forall_mem_cons.mp each with ⟨first, each⟩
          rw [fillItems] at done
          split at done
          · next next was => exact induction each (first _ _ _ kept was) done
          · cases done

theorem fillAll_keeps {depth : Nat} {draft filled : Draft} {json : Json}
    (each : ∀ field ∈ fields, ∀ draft tree next,
      Keeps draft → field.fill draft tree = .ok next → Keeps next)
    (kept : Keeps draft) (done : fillAll fields depth draft json = .ok filled) :
    Keeps filled := by
  rw [fillAll.eq_def] at done
  split at done
  · exact fillEntries_keeps Keeps each kept done
  · exact fillItems_keeps Keeps each kept done
  · cases done

theorem fillEntries_known {field : Field Cause Draft} {key : String} {draft : Draft}
    (known : fields.find? (fun field => field.name == key) = some field)
    (fresh : field.isFilled draft = false) (tree : Json) (rest : List (Option String × Json)) :
    fillEntries fields draft ((some key, tree) :: rest) =
      field.fill draft tree >>= fun next => fillEntries fields next rest := by
  rw [fillEntries]
  simp only [known, fresh]
  cases field.fill draft tree <;> rfl

section

variable {α β : Type} {field : Field Cause Draft} {key : String} {draft : Draft} {tree : Json}
  {rest : List (Option String × Json)} {next : Draft → Reading Cause β}

theorem fillEntries_bind {reading : Reading Cause α} {set : α → Draft}
    {outcome : α → Reading Cause β}
    (known : fields.find? (fun field => field.name == key) = some field)
    (fresh : field.isFilled draft = false)
    (fills : field.fill draft tree = reading >>= fun value => .ok (set value))
    (later : ∀ value, fillEntries fields (set value) rest >>= next = outcome value) :
    fillEntries fields draft ((some key, tree) :: rest) >>= next = reading >>= outcome := by
  rw [fillEntries_known known fresh, fills]
  cases reading with
  | error refusal => rfl
  | ok value => exact later value

theorem fillEntries_ok {filled : Draft} {outcome : Reading Cause β}
    (known : fields.find? (fun field => field.name == key) = some field)
    (fresh : field.isFilled draft = false) (fills : field.fill draft tree = .ok filled)
    (later : fillEntries fields filled rest >>= next = outcome) :
    fillEntries fields draft ((some key, tree) :: rest) >>= next = outcome := by
  rw [fillEntries_known known fresh, fills]
  exact later

end

end Field

namespace Reading

variable {Cause α β : Type}

/-- What is read of a tree that has the right form only under a condition. -/
def provided (condition : Prop) [Decidable condition] (value : α) : Reading Cause α :=
  if condition then .ok value else .error .malformed

theorem provided_of_iff {first second : Prop} [Decidable first] [Decidable second]
    (same : first ↔ second) (value : α) :
    (provided first value : Reading Cause α) = provided second value := by
  simp only [provided, same]

section

variable {reading : Reading Cause α} {value : α} {next : α → Reading Cause β}

theorem bind_ok {outcome : Reading Cause β} (read : reading = .ok value)
    (continued : next value = outcome) : reading >>= next = outcome := by
  rw [read]
  exact continued

theorem bind_provided {first second : Prop} [Decidable first] [Decidable second] {result : β}
    (read : reading = provided first value) (continued : next value = provided second result) :
    reading >>= next = provided (first ∧ second) result := by
  by_cases holds : first
  · have same : reading = .ok value := read.trans (if_pos holds)
    exact bind_ok same (continued.trans (provided_of_iff (by simp [holds]) result))
  · have same : reading = .error .malformed := read.trans (if_neg holds)
    rw [same, provided, if_neg fun both => holds both.1]
    rfl

theorem bind_provided_ok {condition : Prop} [Decidable condition] {result : β}
    (read : reading = provided condition value) (continued : next value = .ok result) :
    reading >>= next = provided condition result :=
  (bind_provided read (continued.trans (if_pos trivial).symm)).trans
    (provided_of_iff (and_iff_left trivial) result)

end

end Reading

theorem Reading.mem_list {Cause α : Type} {read : Json → Reading Cause α} {items : List Json}
    {values : List α} (done : Reading.list read items = .ok values) :
    ∀ value ∈ values, ∃ item ∈ items, read item = .ok value := by
  induction items generalizing values with
  | nil =>
      cases done
      intro value member
      cases member
  | cons item rest induction =>
      rcases ok_of_bind done with ⟨first, firstRead, done⟩
      rcases ok_of_bind done with ⟨others, othersRead, done⟩
      cases done
      refine List.forall_mem_cons.mpr ⟨⟨item, List.mem_cons_self, firstRead⟩, ?_⟩
      intro value member
      rcases induction othersRead value member with ⟨source, inside, sourceRead⟩
      exact ⟨source, List.mem_cons_of_mem _ inside, sourceRead⟩

theorem Reading.text_of_ended {Cause α : Type} {read : Json → Reading Cause α} {text : String}
    {tree : Json} (document : Document.ofString text = ⟨tree, true⟩) :
    Reading.text read text = read tree := by
  rw [Reading.text, document]
  cases read tree <;> rfl

theorem Reading.read_of_text {Cause α : Type} {read : Json → Reading Cause α} {text : String}
    {value : α} (done : Reading.text read text = .ok value) :
    read (Document.ofString text).tree = .ok value := by
  rw [Reading.text] at done
  split at done
  · cases done
  · next found =>
      split at done
      · cases done
        exact found
      · cases done

end SpriteScript
