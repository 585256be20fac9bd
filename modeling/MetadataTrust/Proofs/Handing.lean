import Mathlib.Data.List.Range

/-!
# Handing out one at a time

Something is opened on a system and then asked, now and again, for its next item, while other things are
done to the system as well.  If only the steps that ask move it, and each of them hands out the first item
of what is left, then in a run it hands out its items in order and after them nothing.
-/

namespace MetadataTrust

section Handing

variable {σ α ω β : Type} {step : σ → α → ω × σ} {run : σ → List α → List ω × σ} {asks : α → Bool}
  {handed : α → ω → Option (Option β)} {left : σ → List β → Prop} {s : σ} {items : List β}

/-- **Items are handed out in order, and then nothing.**  The induction is on the run, over the items that
are left before it. -/
theorem handed_of_steps (hnil : ∀ s, (run s []).1 = [])
    (hcons : ∀ s a more, (run s (a :: more)).1 = (step s a).1 :: (run (step s a).2 more).1)
    (hasks : ∀ s items a, left s items → asks a = true →
      handed a (step s a).1 = some items.head? ∧ left (step s a).2 items.tail)
    (hother : ∀ s items a, left s items → asks a = false →
      handed a (step s a).1 = none ∧ left (step s a).2 items)
    (h : left s items) (steps : List α) :
    ((steps.zip (run s steps).1).filterMap fun p => handed p.1 p.2) =
      (List.range (steps.countP asks)).map fun j => items[j]? := by
  induction steps generalizing s items with
  | nil => rw [hnil, List.zip_nil_right, List.filterMap_nil, List.countP_nil, List.range_zero,
      List.map_nil]
  | cons a steps ih =>
    rw [hcons, List.zip_cons_cons, List.filterMap_cons]
    cases ha : asks a with
    | true =>
      obtain ⟨hhanded, hleft⟩ := hasks s items a h ha
      have htail : (fun j => items[j]?) ∘ Nat.succ = fun j => items.tail[j]? := by
        funext j
        rw [List.getElem?_tail, Function.comp_apply]
      simp only [hhanded]
      rw [ih hleft, List.countP_cons_of_pos ha, List.range_succ_eq_map, List.map_cons, List.map_map,
        htail, List.head?_eq_getElem?]
    | false =>
      obtain ⟨hhanded, hleft⟩ := hother s items a h ha
      have hneg : ¬ asks a = true := by simp [ha]
      simp only [hhanded]
      rw [ih hleft, List.countP_cons_of_neg hneg]

end Handing

end MetadataTrust
