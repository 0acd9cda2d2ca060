import PageMap.Proofs.Drawing
import PageMap.Proofs.FlowPlacement
/-! # Fitted texts

In a flow container a text without a height of its own takes the height that it needs. It is
composed to find that height, and composed again in the container that has it. What is drawn is the
second composition, while the elements below stand where the first one ends. Both are the same, as a
text is composed for a width. The main statement is `Builder.layout_fitted`.
-/

namespace PageMap

namespace Item

/-- A text that is laid out in a container of the height of its composition with the padding. -/
structure Fitted (compose : Composer) (content : String) (style : TextStyle) (i : Item) : Prop where
  settled : i.needsLayout = false
  composed : i.content =
    .text content style (some (compose content style (some i.frame.contentRect.width)))
  height : i.frame.container.height =
    (compose content style (some i.frame.contentRect.width)).size.height + 2.0 * i.frame.padding

variable {compose : Composer} {content : String} {style : TextStyle} {i : Item}

/-- The height of a container does not bear on the width inside it. -/
theorem fitHeight_fitted {before : Option Composed}
    (text : i.content = .text content style before) :
    (i.fitHeight compose).Fitted compose content style := by
  simp only [fitHeight, text]
  exact ⟨layout_needsLayout compose _, by simp only [layout]; rfl, by simp only [layout_frame]; rfl⟩

/-- A text that is fitted is drawn as it is, whatever the composer. -/
theorem Fitted.draw (fitted : i.Fitted compose content style) (other : Composer) :
    i.draw other = (i, i.ops) := by
  rw [Item.draw, settle, fitted.settled]
  rfl

theorem Fitted.contentOps (fitted : i.Fitted compose content style) : i.contentOps =
    [.text content (compose content style (some i.frame.contentRect.width)).lines i.used
      style.family style.size style.foreground i.frame.rotation] := by
  rw [Item.contentOps, fitted.composed]

end Item

/-- In a flow container an element without a height amounts to a fitted text, if to any, and takes
    the height of its container. -/
theorem TextElement.outcome_fitted {source : TextSource} {node : Node} {data : Json} {site : Site}
    {flow : Flow} {i : Item} (inFlow : site.flow = some flow)
    (free : site.styles.geometry? node "Height" = none)
    (left : i ∈ (outcome source node data site).items) :
    i.Fitted site.services.compose (cleanedContent source node data site)
        (site.styles.textStyle node) ∧
      (outcome source node data site).extent = some i.frame.container.height := by
  simp only [outcome, inFlow, free] at left ⊢
  split at left
  · cases left
  · rename_i valid
    obtain rfl := List.mem_singleton.mp left
    rw [if_neg valid]
    exact ⟨Item.fitHeight_fitted rfl, rfl⟩

namespace Builder

variable {b : Builder} {i : Item}

/-- An item that does not need layout stays as it is until the page is emptied. -/
theorem mem_items_perform (there : i ∈ b.items) (settled : i.needsLayout = false)
    {call : BuilderCall} (kept : call ≠ .reset) : i ∈ (b.perform call).items := by
  cases call with
  | push name raw =>
      rcases b.perform_push name raw with same | ⟨key, value, -, pushed⟩
      · rwa [same]
      · rwa [pushed]
  | pop name =>
      rcases b.perform_pop name with same | ⟨key, popped⟩
      · rwa [same]
      · rwa [popped]
  | load map => exact there
  | layout map data => exact (b.toSetting.walk_kept data map b.toLayoutState).items.subset there
  | addText | addImage => exact List.mem_append_left _ there
  | draw =>
      have same : i.settle b.services.compose = i := by
        rw [Item.settle, settled]
        rfl
      exact List.mem_map.mpr ⟨i, there, same⟩
  | reset => exact absurd rfl kept

theorem mem_items_run (there : i ∈ b.items) (settled : i.needsLayout = false)
    {calls : List BuilderCall} (kept : .reset ∉ calls) : i ∈ (b.run calls).items :=
  @run_invariant (i ∈ ·.items) calls (fun _ performed _ there =>
    mem_items_perform there settled fun reset => kept (reset ▸ performed)) b there

theorem mem_items_layout {map : Node} {data : Json} {v : Visit}
    (placed : (v, i) ∈ b.placements map data) : i ∈ (b.layout map data).2.items := by
  obtain ⟨visited, left⟩ := mem_placements.mp placed
  have items : (b.layout map data).2.items =
      b.items ++ (b.visits map data).flatMap (b.toSetting.itemsAt data) :=
    b.toSetting.walk_items data [] map b.toLayoutState
  rw [items]
  exact List.mem_append_right _ (List.mem_flatMap.mpr ⟨v, visited, left⟩)

/-- Every item of a page is drawn in one piece. -/
theorem draw_of_mem (there : i ∈ b.items) : ∃ before after,
    b.draw.2 = before ++ (i.draw b.services.compose).2 ++ after := by
  obtain ⟨first, rest, items⟩ := List.append_of_mem there
  rw [draw, items]
  simp only [List.flatMap_append, List.flatMap_cons]
  exact ⟨_, _, (List.append_assoc ..).symm⟩

end Builder

/-- A text with some room around it. -/
def Node.paddedText : Node :=
  ⟨"StackPanel", ⟨[("TextPadding", "3")], by decide⟩,
    [⟨"Text", ⟨[("YSpacing", "4")], by decide⟩, [], "first"⟩], ""⟩

end PageMap
