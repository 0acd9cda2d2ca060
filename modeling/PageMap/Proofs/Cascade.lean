import PageMap.Layout.Cascade
/-! # Laws of the cascade

All values stand in one list, but a key only ever sees its own: a push or a pop changes the stack of
its key and no other. Taking back a list of pushes in reverse restores the cascade as a whole.
-/

namespace PageMap.Cascade

@[simp]
theorem stack_push (c : Cascade) (key other : StyleKey) (value : StyleValue) :
    (c.push key value).stack other =
      if key = other then value :: c.stack other else c.stack other := by
  by_cases same : key = other <;> simp [stack, push, same]

@[simp]
theorem stack_pop (c : Cascade) (key other : StyleKey) :
    (c.pop key).stack other = if key = other then (c.stack other).tail else c.stack other := by
  obtain ⟨entries⟩ := c
  simp only [stack, pop]
  induction entries with
  | nil => simp
  | cons entry rest ih =>
      by_cases top : entry.1 = key
      · by_cases same : key = other <;> simp [top, same]
      · rw [List.eraseP_cons_of_neg (by simpa using top), List.filterMap_cons, List.filterMap_cons,
          ih]
        by_cases same : key = other
        · simp [same ▸ top, same]
        · simp only [same, if_false]

theorem top?_eq_head? (c : Cascade) (key : StyleKey) : c.top? key = (c.stack key).head? :=
  List.head?_filterMap.symm

@[simp]
theorem pop_push (c : Cascade) (key : StyleKey) (value : StyleValue) :
    (c.push key value).pop key = c := by
  simp [push, pop]

theorem pushAll_cons (c : Cascade) (entry : StyleKey × StyleValue)
    (pushes : List (StyleKey × StyleValue)) :
    c.pushAll (entry :: pushes) = (c.push entry.1 entry.2).pushAll pushes :=
  rfl

theorem popAll_cons (c : Cascade) (entry : StyleKey × StyleValue)
    (pushes : List (StyleKey × StyleValue)) :
    c.popAll (entry :: pushes) = (c.popAll pushes).pop entry.1 := by
  simp only [popAll, List.reverse_cons, List.foldl_append, List.foldl_cons, List.foldl_nil]

@[simp]
theorem popAll_pushAll (c : Cascade) (pushes : List (StyleKey × StyleValue)) :
    (c.pushAll pushes).popAll pushes = c := by
  induction pushes generalizing c with
  | nil => rfl
  | cons entry rest ih => rw [pushAll_cons, popAll_cons, ih, pop_push]

theorem stack_pushAll (c : Cascade) (pushes : List (StyleKey × StyleValue)) (key : StyleKey) :
    (c.pushAll pushes).stack key =
      (pushes.filterMap fun entry => if entry.1 = key then some entry.2 else none).reverse ++
        c.stack key := by
  induction pushes generalizing c with
  | nil => rfl
  | cons entry rest ih =>
      rw [pushAll_cons, ih, stack_push, List.filterMap_cons]
      by_cases same : entry.1 = key <;> simp [same]

end PageMap.Cascade
