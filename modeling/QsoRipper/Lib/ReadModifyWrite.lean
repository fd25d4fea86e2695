/-
QsoRipper/Lib/ReadModifyWrite.lean

The shape of a call that reads one thing, computes, and then writes at most
once.  Around the read and the write it may issue *quiet* commands, which are
the ones the shared state does not care about.

A call of this shape is always in one of three phases:

    unread  --read/a-->  holding a  --write-->  done

and quiet commands do not change the phase.  The phases are properties of
the rest of the program, so they survive interleaving.
-/
import QsoRipper.Lib.Program

namespace Interaction

variable {C : Type} {R : C → Type} {α β : Type}

/-- At most one `write` is left, with quiet commands around it. -/
inductive Prog.Writes (quiet write : C → Prop) : Prog C R α → Prop
  | pure (a : α) : Writes quiet write (.pure a)
  | quiet {c : C} {k : R c → Prog C R α} :
      quiet c → (∀ r, Writes quiet write (k r)) → Writes quiet write (.cmd c k)
  | write {c : C} {k : R c → Prog C R α} :
      write c → (∀ r, (k r).Emits quiet) → Writes quiet write (.cmd c k)

/-- At most one `read` is left, and after it at most one write, which may
depend on what was read. -/
inductive Prog.Reads (quiet : C → Prop) (read : C) (write : R read → C → Prop) :
    Prog C R α → Prop
  | pure (a : α) : Reads quiet read write (.pure a)
  | quiet {c : C} {k : R c → Prog C R α} :
      quiet c → (∀ r, Reads quiet read write (k r)) → Reads quiet read write (.cmd c k)
  | read {k : R read → Prog C R α} :
      (∀ r, (k r).Writes quiet (write r)) → Reads quiet read write (.cmd read k)

/-- Where such a call stands; what it read satisfies `P`. -/
inductive Prog.Phase (quiet : C → Prop) (read : C) (write : R read → C → Prop) (P : R read → Prop)
    (p : Prog C R α) : Prop
  | unread : p.Reads quiet read write → Phase quiet read write P p
  | holding (a : R read) : P a → p.Writes quiet (write a) → Phase quiet read write P p
  | finished : p.Emits quiet → Phase quiet read write P p

/-- What the next command of such a call is, and where it leads. -/
inductive Prog.NextPhase (quiet : C → Prop) (read : C) (write : R read → C → Prop)
    (P : R read → Prop) : (c : C) → (R c → Prog C R α) → Prop
  | quiet {c : C} {k : R c → Prog C R α} :
      quiet c → (∀ r, (k r).Phase quiet read write P) → NextPhase quiet read write P c k
  | read {k : R read → Prog C R α} :
      (∀ a, P a → (k a).Phase quiet read write P) → NextPhase quiet read write P read k
  | write {c : C} {k : R c → Prog C R α} (a : R read) :
      P a → write a c → (∀ r, (k r).Phase quiet read write P) → NextPhase quiet read write P c k

namespace Prog

variable {quiet write write' : C → Prop} {p : Prog C R α}

theorem Emits.writes (h : p.Emits quiet) : p.Writes quiet write := by
  induction p with
  | pure a => exact .pure a
  | cmd c k ih => exact .quiet h.1 fun r => ih r (h.2 r)

theorem Emits.bind_writes {f : α → Prog C R β} (hp : p.Emits quiet)
    (hf : ∀ a, (f a).Writes quiet write) : (p >>= f).Writes quiet write := by
  induction p with
  | pure a => exact hf a
  | cmd c k ih => exact .quiet hp.1 fun r => ih r (hp.2 r)

theorem Writes.mono (hw : ∀ c, write c → write' c) (h : p.Writes quiet write) :
    p.Writes quiet write' := by
  induction h with
  | pure a => exact .pure a
  | quiet hq _ ih => exact .quiet hq ih
  | write hc hk => exact .write (hw _ hc) hk

/-- Quiet commands after the write. -/
theorem Writes.bind_emits {f : α → Prog C R β} (hp : p.Writes quiet write)
    (hf : ∀ a, (f a).Emits quiet) : (p >>= f).Writes quiet write := by
  induction hp with
  | pure a => exact (hf a).writes
  | quiet hq _ ih => exact .quiet hq ih
  | write hc hk => exact .write hc fun r => (hk r).bind hf

/-- Quiet commands after the call. -/
theorem Reads.bind_emits {read : C} {write : R read → C → Prop} {f : α → Prog C R β}
    (hp : p.Reads quiet read write) (hf : ∀ a, (f a).Emits quiet) :
    (p >>= f).Reads quiet read write := by
  induction hp with
  | pure a =>
      show (f a).Reads quiet read write
      generalize hb : f a = b
      have hemits : b.Emits quiet := hb ▸ hf a
      clear hb
      induction b with
      | pure b => exact .pure b
      | cmd c k ih => exact .quiet hemits.1 fun r => ih r (hemits.2 r)
  | quiet hq _ ih => exact .quiet hq ih
  | read hk => exact .read fun r => (hk r).bind_emits hf

/-- Quiet commands before the read. -/
theorem Emits.bind_reads {read : C} {write : R read → C → Prop} {f : α → Prog C R β}
    (hp : p.Emits quiet) (hf : ∀ a, (f a).Reads quiet read write) :
    (p >>= f).Reads quiet read write := by
  induction p with
  | pure a => exact hf a
  | cmd c k ih => exact .quiet hp.1 fun r => ih r (hp.2 r)

/-- A call issues nothing but its quiet commands, its read and its writes. -/
theorem Writes.emits {P : C → Prop} (hp : p.Writes quiet write) (hq : ∀ c, quiet c → P c)
    (hw : ∀ c, write c → P c) : p.Emits P := by
  have hemits : ∀ {p : Prog C R α}, p.Emits quiet → p.Emits P := by
    intro p
    induction p with
    | pure a => exact id
    | cmd c k ih => exact fun h => ⟨hq c h.1, fun r => ih r (h.2 r)⟩
  induction hp with
  | pure a => trivial
  | quiet h _ ih => exact ⟨hq _ h, ih⟩
  | write h hk => exact ⟨hw _ h, fun r => hemits (hk r)⟩

theorem Reads.emits {P : C → Prop} {read : C} {write : R read → C → Prop}
    (hp : p.Reads quiet read write) (hq : ∀ c, quiet c → P c) (hr : P read)
    (hw : ∀ a c, write a c → P c) : p.Emits P := by
  induction hp with
  | pure a => trivial
  | quiet h _ ih => exact ⟨hq _ h, ih⟩
  | read hk => exact ⟨hr, fun r => (hk r).emits hq (hw r)⟩

/-- **The phases of a call.**  Each command either is quiet, or is the read,
or is a write that what was read justifies. -/
theorem Phase.next {read : C} {write : R read → C → Prop} {P : R read → Prop} {c : C}
    {k : R c → Prog C R α} (h : (Prog.cmd c k).Phase quiet read write P) :
    NextPhase quiet read write P c k := by
  cases h with
  | unread h =>
      cases h with
      | quiet hq hk => exact .quiet hq fun r => .unread (hk r)
      | read hk => exact .read fun a ha => .holding a ha (hk a)
  | holding a ha h =>
      cases h with
      | quiet hq hk => exact .quiet hq fun r => .holding a ha (hk r)
      | write hw hk => exact .write a ha hw fun r => .finished (hk r)
  | finished h => exact .quiet h.1 fun r => .finished (h.2 r)

end Prog

end Interaction
