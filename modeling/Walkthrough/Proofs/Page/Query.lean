import Walkthrough.Proofs.Page.Content

/-!
Operations that only ask. On a page where no call fails or changes anything they are answered by
what it shows, whatever was called before and however long calls take, and it shows the same
afterwards.
-/
namespace Walkthrough

/-- The page shows so, and no call on it fails or changes that. -/
structure Stage.Presents (s : Stage) (p : PageContent) : Prop where
  content : s.content = p
  failures : s.failures = []
  changes : s.changes = []

theorem Stage.Presents.tell {s : Stage} {p : PageContent} (h : s.Presents p) (r : LogRecord) :
    (s.tell r).Presents p :=
  ⟨h.content, h.failures, h.changes⟩

/-- What is done on a page that shows so has this answer, and leaves the page so. -/
def Act.Tells {α : Type} (x : Act α) (p : PageContent) (a : α) : Prop :=
  ∀ s : Stage, s.Presents p → ∃ t, x s = .ok a t ∧ t.Presents p

namespace Act.Tells
variable {α β : Type} {p : PageContent} {a : α} {b : β}

theorem pure (a : α) : Tells (Pure.pure a) p a := fun s hs => ⟨s, rfl, hs⟩

theorem bind {x : Act α} {f : α → Act β} (hx : Tells x p a) (hf : Tells (f a) p b) :
    Tells (x >>= f) p b := by
  intro s hs
  obtain ⟨t, hend, ht⟩ := hx s hs
  obtain ⟨u, hend', hu⟩ := hf t ht
  exact ⟨u, (bind_of_ok hend).trans hend', hu⟩

theorem hit (c : PageCall) : Tells (Stage.hit c) p () := by
  rintro ⟨content, failures, changes, latency, clock, calls, log⟩ ⟨hcontent, hfailures, hchanges⟩
  obtain rfl : failures = [] := hfailures
  obtain rfl : changes = [] := hchanges
  exact ⟨_, rfl, hcontent, rfl, rfl⟩

/-- What is on the page may be read, and determines what is done then. -/
theorem read {f : Stage → Act α} (hf : ∀ s : Stage, s.content = p → Tells (f s) p a) :
    Tells (get >>= f) p a :=
  fun s hs => hf s hs.content s hs

/-- A call that answers with something on the page. -/
theorem hit_read (c : PageCall) {f : Stage → α} (hf : ∀ s : Stage, s.content = p → f s = a) :
    Tells (do Stage.hit c; return f (← get)) p a :=
  (hit c).bind (read fun s hs => by rw [hf s hs]; exact pure a)

end Act.Tells

namespace Stage
open Act (Tells)

end Stage

end Walkthrough
