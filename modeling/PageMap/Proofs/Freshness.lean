import PageMap.Proofs.Drawing
import PageMap.Proofs.Floats
/-! # Items that are laid out

Laying an item out leaves two results with it: the rectangle that its content takes, and the
composed text. They follow from the frame and from the content alone. Whatever is done to an item,
it is marked as needing layout unless both results are what laying it out again would find. The main
statement is `Item.run_fresh`.
-/

namespace PageMap

/-- A call of a function of an item. -/
inductive ItemCall where
  /-- Changes the frame in any way. -/
  | editFrame (edit : Frame → Frame)
  | setHighlight (highlight : Bool)
  | layout
  | fitHeight
  | draw

namespace Item

/-- The item after a call. -/
def perform (compose : Composer) (i : Item) : ItemCall → Item
  | .editFrame edit => i.setFrame (edit i.frame)
  | .setHighlight highlight => i.setHighlight highlight
  | .layout => i.layout compose
  | .fitHeight => i.fitHeight compose
  | .draw => (i.draw compose).1

/-- Performs calls in order. -/
def run (compose : Composer) (i : Item) (calls : List ItemCall) : Item :=
  calls.foldl (perform compose) i

/-- What an item has of layout is what its frame and its content lead to. -/
structure Current (compose : Composer) (i : Item) : Prop where
  fixed : i.layout compose = i
  used : i.used = match i.content with
    | .text content style _ =>
        i.frame.align i.frame.contentRect (composeIn compose i.frame content style).size
    | .image _ intrinsic => imageRect i.frame intrinsic
  composed {content : String} {style : TextStyle} {composed : Option Composed} :
    i.content = .text content style composed →
      composed = some (composeIn compose i.frame content style)

/-- An item that does not need layout is current. -/
def Fresh (compose : Composer) (i : Item) : Prop :=
  i.needsLayout = false → i.Current compose

section Layout

variable (compose : Composer) (i : Item)

/-- Nothing is to be found about an item that is the same after layout. -/
theorem current_of_fixed {i : Item} (fixed : i.layout compose = i) : i.Current compose where
  fixed := fixed
  used := by
    have used := congrArg Item.used fixed
    rw [← used]
    cases h : i.content <;> simp [layout, h]
  composed {content style composed} h := by
    have content := congrArg Item.content fixed
    simp only [layout, h, ItemContent.text.injEq] at content
    exact content.2.2.symm

/-- Layout finds the same again. -/
theorem layout_layout : (i.layout compose).layout compose = i.layout compose := by
  cases h : i.content <;> simp [layout, h]

theorem layout_current : (i.layout compose).Current compose :=
  current_of_fixed compose (layout_layout compose i)

theorem fitHeight_current : (i.fitHeight compose).Current compose := by
  unfold fitHeight
  split <;> exact layout_current compose _

/-- Layout does not look at the outline. -/
theorem layout_setHighlight (highlight : Bool) :
    (i.setHighlight highlight).layout compose = (i.layout compose).setHighlight highlight := by
  cases h : i.content <;> (simp only [layout, setHighlight, h]; rfl)

end Layout

namespace Fresh

variable {compose : Composer} {i : Item}

theorem ofContent (frame : Frame) (content : ItemContent) :
    (ofContent frame content).Fresh compose :=
  nofun

/-- Drawing an item makes it current. -/
theorem settle (fresh : i.Fresh compose) : (i.settle compose).Current compose := by
  unfold Item.settle
  split
  · exact layout_current compose i
  · rename_i settled
    exact fresh (Bool.eq_false_iff.mpr settled)

theorem perform (fresh : i.Fresh compose) (call : ItemCall) :
    (i.perform compose call).Fresh compose := by
  intro settled
  cases call with
  | editFrame edit => cases settled
  | setHighlight highlight =>
      have same := (fresh settled).fixed
      apply current_of_fixed
      calc (i.setHighlight highlight).layout compose
        _ = (i.layout compose).setHighlight highlight := layout_setHighlight compose i highlight
        _ = i.setHighlight highlight := by rw [same]
  | layout => exact layout_current compose i
  | fitHeight => exact fitHeight_current compose i
  | draw => exact fresh.settle

end Fresh

end Item

/-! ### Moving -/

/-- The rectangle further down. An `x` of minus zero becomes zero. -/
def Rect.lowered (r : Rect) (dy : Single) : Rect :=
  { r with x := if r.x = -0.0 then 0.0 else r.x, y := r.y + dy }

theorem Rect.translate_eq_lowered (r : Rect) (dy : Single) : r.translate 0.0 dy = r.lowered dy := by
  rw [translate, lowered, Single.add_zero]

namespace Item

/-- Whatever calls a new item has gone through, if it does not need layout, then laying it out would
    change nothing: the rectangle of its content and the composed text, which is there, are those of
    its frame and its content as they are. Whenever an item is moved down, its two rectangles change
    and nothing else: to each `y` the distance is added, and an `x` of minus zero becomes zero. -/
theorem run_fresh (compose : Composer) (frame : Frame) (content : ItemContent)
    (calls : List ItemCall) :
    let i := (ofContent frame content).run compose calls
    (i.needsLayout = false → i.Current compose) ∧
    ∀ (item : Item) (dy : Single), item.moveDown dy =
      { item with
        frame := { item.frame with container := item.frame.container.lowered dy }
        used := item.used.lowered dy } := by
  intro i
  have fresh : i.Fresh compose :=
    List.foldlRecOn calls (perform compose) (Fresh.ofContent frame content)
      fun _ fresh call _ => fresh.perform call
  refine ⟨fresh, fun item dy => ?_⟩
  rw [moveDown, Rect.translate_eq_lowered, Rect.translate_eq_lowered]

theorem run_fresh_padded :
    let compose : Composer := .fixed ⟨10.0, 20.0⟩
    let i := (text "a" .default (.plain ⟨0.0, 0.0, 100.0, 50.0⟩)).run compose
      [.draw, .editFrame fun frame => { frame with padding := 2.0 }, .fitHeight, .setHighlight true]
    i.needsLayout = false ∧ i.Current compose ∧
      i.moveDown 5.0 =
        { i with
          frame := { i.frame with container := i.frame.container.lowered 5.0 }
          used := i.used.lowered 5.0 } := by
  intro compose i
  obtain ⟨current, moved⟩ := run_fresh compose (.plain ⟨0.0, 0.0, 100.0, 50.0⟩)
    (.text "a" .default none)
    [.draw, .editFrame fun frame => { frame with padding := 2.0 }, .fitHeight, .setHighlight true]
  have settled : i.needsLayout = false := rfl
  exact ⟨settled, current settled, moved i 5.0⟩

/-- The `x` of an item that stands at minus zero does not stay as it is. -/
theorem moveDown_minus_zero :
    let i := image "a" ⟨1.0, 1.0⟩ (.plain ⟨-0.0, 0.0, 1.0, 1.0⟩)
    i.moveDown 1.0 ≠
      { i with
        frame := { i.frame with
          container := { i.frame.container with y := i.frame.container.y + 1.0 } }
        used := { i.used with y := i.used.y + 1.0 } } := by
  intro i same
  have kept : -0.0 + 0.0 = (-0.0 : Single) := congrArg (·.frame.container.x) same
  exact absurd kept (by decide +kernel)

end Item

end PageMap
