import Mathlib.Data.List.Induction
import Mathlib.Data.List.Nodup

/-!
# Support — Scan

A search in lanes.  Every lane goes over all items, and takes those that it hits; an item that an
earlier lane has taken is left out, except by the lanes that take `again`.

* `mem_scan`: an entry comes from a lane that hits its item; unless that lane takes again, it is
  the first that does.
* `key_mem_scan`: an item that some lane hits is taken.
* `nodup_scan`: no item is taken twice, when a lane that takes again comes before the others
  that hit the item.
-/

namespace Scan

variable {L D E : Type*} [DecidableEq D] (entry : L → D → E) (key : E → D) (hits : L → D → Bool)
  (again : L → Bool) (items : List D)

/-- Whether the lane takes the item, with `found` taken before it. -/
def takes (found : List E) (l : L) (d : D) : Bool :=
  hits l d && (again l || !(found.map key).contains d)

/-- What has been found after the lane. -/
def lane (found : List E) (l : L) : List E :=
  found ++ (items.filter (takes key hits again found l)).map (entry l)

/-- What has been found after all the lanes. -/
def scan (lanes : List L) : List E := lanes.foldl (lane entry key hits again items) []

variable {entry key hits again items}

theorem scan_concat (lanes : List L) (l : L) :
    scan entry key hits again items (lanes ++ [l]) =
      lane entry key hits again items (scan entry key hits again items lanes) l := by
  simp [scan, List.foldl_append]

theorem mem_lane {found : List E} {l : L} {e : E} :
    e ∈ lane entry key hits again items found l ↔
      e ∈ found ∨ ∃ d ∈ items, takes key hits again found l d = true ∧ entry l d = e := by
  simp [lane, and_assoc]

variable (hkey : ∀ l d, key (entry l d) = d)
include hkey

theorem key_mem_scan {lanes : List L} {l : L} {d : D} (hl : l ∈ lanes) (hd : d ∈ items)
    (hhit : hits l d = true) : d ∈ (scan entry key hits again items lanes).map key := by
  induction lanes using List.reverseRecOn with
  | nil => cases hl
  | append_singleton lanes l₁ ih =>
      rw [scan_concat]
      set found := scan entry key hits again items lanes
      by_cases hf : d ∈ found.map key
      · obtain ⟨e, he, rfl⟩ := List.mem_map.mp hf
        exact List.mem_map_of_mem (mem_lane.mpr (.inl he))
      · rcases List.mem_append.mp hl with hl | hl
        · exact absurd (ih hl) hf
        · obtain rfl := List.mem_singleton.mp hl
          have htakes : takes key hits again found l d = true := by
            simp [takes, hhit, hf]
          exact List.mem_map.mpr ⟨entry l d, mem_lane.mpr (.inr ⟨d, hd, htakes, rfl⟩), hkey l d⟩

/-- **Where an entry comes from.** -/
theorem mem_scan {lanes : List L} {e : E} (he : e ∈ scan entry key hits again items lanes) :
    ∃ pre l post, lanes = pre ++ l :: post ∧ ∃ d ∈ items, e = entry l d ∧ hits l d = true ∧
      (again l = false → ∀ l' ∈ pre, hits l' d = false) := by
  induction lanes using List.reverseRecOn with
  | nil => cases he
  | append_singleton lanes l₁ ih =>
      rw [scan_concat] at he
      rcases mem_lane.mp he with he | ⟨d, hd, htakes, rfl⟩
      · obtain ⟨pre, l, post, rfl, h⟩ := ih he
        exact ⟨pre, l, post ++ [l₁], by simp, h⟩
      · obtain ⟨hhit, hfree⟩ := Bool.and_eq_true_iff.mp htakes
        refine ⟨lanes, l₁, [], rfl, d, hd, rfl, hhit, fun hagain l' hl' => ?_⟩
        by_contra hhit'
        have hmem : d ∈ (scan entry key hits again items lanes).map key :=
          key_mem_scan hkey hl' hd (by simpa using hhit')
        rw [hagain, Bool.false_or, Bool.not_eq_true'] at hfree
        exact absurd ((List.contains_iff_mem.mpr hmem).symm.trans hfree) (by decide)

/-- **No item is taken twice.** -/
theorem nodup_scan {lanes : List L} (hitems : items.Nodup)
    (hagain : ∀ pre l post, lanes = pre ++ l :: post → again l = true → ∀ d ∈ items,
      hits l d = true → ∀ l' ∈ pre, hits l' d = false) :
    ((scan entry key hits again items lanes).map key).Nodup := by
  induction lanes using List.reverseRecOn with
  | nil => exact List.nodup_nil
  | append_singleton lanes l₁ ih =>
      have hprev := ih fun pre l post h => hagain pre l (post ++ [l₁]) (by simp [h])
      have hnew : ((items.filter (takes key hits again (scan entry key hits again items lanes)
          l₁)).map (entry l₁)).map key =
          items.filter (takes key hits again (scan entry key hits again items lanes) l₁) := by
        rw [List.map_map]
        exact (List.map_congr_left fun d _ => hkey l₁ d).trans (List.map_id _)
      rw [scan_concat, lane, List.map_append, hnew, List.nodup_append]
      refine ⟨hprev, hitems.filter _, ?_⟩
      rintro _ hold d hd rfl
      obtain ⟨hmem, htakes⟩ := List.mem_filter.mp hd
      obtain ⟨hhit, hfree⟩ := Bool.and_eq_true_iff.mp htakes
      cases ha : again l₁ with
      | false =>
          rw [ha, Bool.false_or, Bool.not_eq_true'] at hfree
          exact absurd ((List.contains_iff_mem.mpr hold).symm.trans hfree) (by decide)
      | true =>
          -- the lane takes again: an earlier entry for the item comes from a lane that hits it
          obtain ⟨e, he, rfl⟩ := List.mem_map.mp hold
          obtain ⟨pre, l, post, rfl, d, hd', rfl, hhit', -⟩ := mem_scan hkey he
          rw [hkey] at hhit hmem
          have hno := hagain _ l₁ [] rfl ha d hmem hhit l (by simp)
          exact absurd (hhit'.symm.trans hno) (by decide)

end Scan
