import Bindery.Proofs.Lines
import Bindery.Proofs.Pushes
import Mathlib.Data.Int.Notation
import Mathlib.Logic.Relation

/-!
# Guards and the level of indentation

A writer keeps a number, the level, and the code that uses it holds guards. Taking a guard and
releasing it are the only ways to change the level, but the code may do both in any order: it may
release a guard out of turn, keep one past the end of the block it was taken in, or go on after an
error.

**Code** (`Client`). What uses a writer is a tree: each operation goes on with what it was told, a
write with whether it succeeded and a new guard with its number. A block is such code as well
(`Client.block`): it takes a guard, runs its body and releases that guard, however the body ended.

**Moments.** Code runs moment by moment (`Moment.next?`) on a `Session`, which holds the writer and
the guards that are alive. Each primitive keeps a session sound (`Session.Sound`), so every moment
of every run has a sound session (`Moment.Leads.sound`).

**Scripts.** A script is code that keeps its guards on a stack (`bodyCode`, `run_bodyCode`).

Main result: `level_counts_guards`.
-/

namespace Bindery.Layout

variable {σ α β : Type}

/-! ## Code -/

/-- What is written without a guard being taken or released. -/
inductive Operation where
  | write (piece : String)
  | line (piece : String)
  | blank
  | comment (mark text : String)
  | separated (separator : String) (asLines : Bool) (items : List String)
  deriving DecidableEq, Repr

def Operation.run [TextSink σ] (writer : Writer σ) : Operation → Outcome σ
  | .write piece => writer.write piece
  | .line piece => writer.writeLine piece
  | .blank => writer.newLine
  | .comment mark text => writer.writeComment mark (Text.lines text)
  | .separated separator asLines items => writer.writeSeparated separator asLines items

theorem Operation.plain [TextSink σ] (operation : Operation) :
    Plain fun w : Writer σ => operation.run w := by
  cases operation with
  | write piece => exact .write piece
  | line piece => exact .writeLine piece
  | blank => exact .newLine
  | comment mark text => exact .writeComment mark _
  | separated separator asLines items => exact .writeSeparated separator asLines items

/-- Code that uses a writer. It ends with a value, and with whether it succeeded. A list whose items
are code of their own is that code with the separator written in between. -/
inductive Client (α : Type) where
  | done (value : α) (ok : Bool)
  | write (operation : Operation) (next : Bool → Client α)
  /-- Takes a guard. -/
  | indent (next : Nat → Client α)
  /-- Releases a guard, if it is alive. -/
  | release (guard : Nat) (next : Client α)

namespace Client

/-- Goes on with how the code ended. -/
def bind : Client α → (α → Bool → Client β) → Client β
  | .done value ok, next => next value ok
  | .write operation rest, next => .write operation fun ok => (rest ok).bind next
  | .indent rest, next => .indent fun guard => (rest guard).bind next
  | .release guard rest, next => .release guard (rest.bind next)

/-- A block. The body starts with a value of the code around it and may change it. -/
def block (header : String) (value : α) (body : α → Client α) : Client α :=
  .write (.line (header ++ " \x7b")) fun opened =>
    if opened then
      .indent fun own => (body value).bind fun value ok =>
        .release own (if ok then .write (.line "\x7d") (.done value) else .done value false)
    else .done value false

end Client

/-! ## Sessions -/

/-- A writer in use: the guards that are alive, each known by its number, and the number of the next
one. -/
structure Session (σ : Type) where
  writer : Writer σ
  alive : List Nat := []
  fresh : Nat := 0

namespace Session

/-- A new writer; no guard was taken yet. -/
def new (sink : σ) (indentation : String) : Session σ :=
  { writer := { sink, indentation } }

def indent (session : Session σ) : Session σ :=
  ⟨session.writer.indent, session.fresh :: session.alive, session.fresh + 1⟩

def release (session : Session σ) (guard : Nat) : Session σ :=
  if guard ∈ session.alive then
    { session with writer := session.writer.dedent, alive := session.alive.erase guard }
  else session

def perform [TextSink σ] (session : Session σ) (operation : Operation) : Session σ :=
  { session with writer := (operation.run session.writer).writer }

/-- The guards taken since an earlier session that are still alive. -/
def created (before after : Session σ) : List Nat :=
  after.alive.filter (before.fresh ≤ ·)

/-- The guards of an earlier session that are gone. -/
def dropped (before after : Session σ) : List Nat :=
  before.alive.filter (· ∉ after.alive)

/-- The level is the number of guards alive, and these are different from each other and from all
that are to come. -/
structure Sound (session : Session σ) : Prop where
  level : session.writer.level = session.alive.length
  nodup : session.alive.Nodup
  lt_fresh : ∀ guard ∈ session.alive, guard < session.fresh

/-- One session comes from the other: no number is given twice. -/
structure Extends (before after : Session σ) : Prop where
  fresh_le : before.fresh ≤ after.fresh
  old : ∀ guard ∈ after.alive, guard < before.fresh → guard ∈ before.alive

theorem Extends.refl (session : Session σ) : session.Extends session :=
  ⟨Nat.le_refl _, fun _ hmem _ => hmem⟩

theorem Extends.trans {before middle after : Session σ} (h : before.Extends middle)
    (h' : middle.Extends after) : before.Extends after where
  fresh_le := Nat.le_trans h.fresh_le h'.fresh_le
  old guard hmem hlt := h.old guard (h'.old guard hmem (Nat.lt_of_lt_of_le hlt h.fresh_le)) hlt

variable {session : Session σ}

theorem Sound.new (sink : σ) (indentation : String) : (Session.new sink indentation).Sound :=
  ⟨rfl, List.nodup_nil, by simp [Session.new]⟩

theorem Sound.indent (h : session.Sound) : session.indent.Sound := by
  refine ⟨?_, ?_, ?_⟩
  · simp [Session.indent, Writer.indent, h.level]
  · have hnew : session.fresh ∉ session.alive := fun hmem => Nat.lt_irrefl _ (h.lt_fresh _ hmem)
    exact List.nodup_cons.mpr ⟨hnew, h.nodup⟩
  · intro guard hmem
    rcases List.mem_cons.mp hmem with rfl | hold
    · exact Nat.lt_succ_self _
    · exact Nat.lt_succ_of_lt (h.lt_fresh guard hold)

theorem extends_indent (session : Session σ) : session.Extends session.indent := by
  refine ⟨Nat.le_succ _, fun guard hmem hlt => ?_⟩
  rcases List.mem_cons.mp hmem with rfl | hold
  · exact absurd hlt (Nat.lt_irrefl _)
  · exact hold

/-- Releasing a guard that is alive takes one from a level that is not zero. -/
theorem Sound.level_dedent (h : session.Sound) {guard : Nat} (hmem : guard ∈ session.alive) :
    session.writer.dedent.level + 1 = session.writer.level := by
  have hpos : 0 < session.alive.length := List.length_pos_of_mem hmem
  have hlevel := h.level
  simp only [Writer.dedent]
  omega

theorem Sound.release (h : session.Sound) (guard : Nat) : (session.release guard).Sound := by
  rw [Session.release]
  split
  · rename_i hmem
    refine ⟨?_, h.nodup.erase guard,
      fun other hother => h.lt_fresh other (List.mem_of_mem_erase hother)⟩
    have hlevel := h.level_dedent hmem
    have hlength := List.length_erase_add_one hmem
    have hbefore := h.level
    simp only
    omega
  · exact h

theorem Sound.not_mem_release (h : session.Sound) (guard : Nat) :
    guard ∉ (session.release guard).alive := by
  rw [Session.release]
  split
  · exact h.nodup.not_mem_erase
  · assumption

theorem extends_release (session : Session σ) (guard : Nat) :
    session.Extends (session.release guard) := by
  rw [release]
  split
  · exact ⟨Nat.le_refl _, fun _ hmem _ => List.mem_of_mem_erase hmem⟩
  · exact Extends.refl session

theorem Sound.perform [TextSink σ] (h : session.Sound) (operation : Operation) :
    (session.perform operation).Sound :=
  ⟨(operation.plain.level session.writer).trans h.level, h.nodup, h.lt_fresh⟩

theorem extends_perform [TextSink σ] (session : Session σ) (operation : Operation) :
    session.Extends (session.perform operation) :=
  ⟨Nat.le_refl _, fun _ hmem _ => hmem⟩

/-- Guards that are alive were there before or are new, and those that were there are alive or
gone. -/
theorem Extends.level {before after : Session σ} (h : before.Extends after) (hbefore : before.Sound)
    (hafter : after.Sound) :
    (after.writer.level : ℤ) =
      before.writer.level + (before.created after).length - (before.dropped after).length := by
  have hkept : (after.alive.filter fun guard => !decide (before.fresh ≤ guard)).Perm
      (before.alive.filter fun guard => !decide (guard ∉ after.alive)) := by
    refine (List.perm_ext_iff_of_nodup (hafter.nodup.filter _) (hbefore.nodup.filter _)).mpr ?_
    intro guard
    simp only [List.mem_filter, Bool.not_eq_true', decide_eq_false_iff_not, Nat.not_le, not_not]
    constructor
    · rintro ⟨halive, hlt⟩
      exact ⟨h.old guard halive hlt, halive⟩
    · rintro ⟨hold, halive⟩
      exact ⟨halive, hbefore.lt_fresh guard hold⟩
  have hlengthAfter := List.length_eq_length_filter_add (l := after.alive) (before.fresh ≤ ·)
  have hlengthBefore := List.length_eq_length_filter_add (l := before.alive) (· ∉ after.alive)
  have hlength := hkept.length_eq
  rw [hbefore.level, hafter.level, created, dropped]
  omega

end Session

/-! ## Moments -/

variable [TextSink σ]

/-- How code ended, and the session it left. -/
structure Ending (σ α : Type) where
  session : Session σ
  value : α
  ok : Bool

/-- Runs code to its end. -/
def Client.run (session : Session σ) : Client α → Ending σ α
  | .done value ok => ⟨session, value, ok⟩
  | .write operation next =>
    (next (operation.run session.writer).ok).run (session.perform operation)
  | .indent next => (next session.fresh).run session.indent
  | .release guard next => next.run (session.release guard)

/-- A moment of a run: the session, and the code that is still to be run. -/
structure Moment (σ α : Type) where
  session : Session σ
  code : Client α

namespace Moment

def next? : Moment σ α → Option (Moment σ α)
  | ⟨_, .done _ _⟩ => none
  | ⟨session, .write operation next⟩ =>
    some ⟨session.perform operation, next (operation.run session.writer).ok⟩
  | ⟨session, .indent next⟩ => some ⟨session.indent, next session.fresh⟩
  | ⟨session, .release guard next⟩ => some ⟨session.release guard, next⟩

/-- One moment comes after the other, at once or later. -/
def Leads : Moment σ α → Moment σ α → Prop :=
  Relation.ReflTransGen fun moment later => moment.next? = some later

/-- **One moment.** -/
theorem step_sound {moment later : Moment σ α} (hstep : moment.next? = some later)
    (h : moment.session.Sound) :
    later.session.Sound ∧ moment.session.Extends later.session := by
  obtain ⟨session, code⟩ := moment
  cases code with
  | done value ok => cases hstep
  | write operation next =>
    cases hstep
    exact ⟨h.perform operation, session.extends_perform operation⟩
  | indent next =>
    cases hstep
    exact ⟨h.indent, session.extends_indent⟩
  | release guard next =>
    cases hstep
    exact ⟨h.release guard, session.extends_release guard⟩

/-- **Every later moment.** -/
theorem Leads.sound {moment later : Moment σ α} (hleads : moment.Leads later)
    (h : moment.session.Sound) :
    later.session.Sound ∧ moment.session.Extends later.session := by
  induction hleads with
  | refl => exact ⟨h, Session.Extends.refl _⟩
  | tail _ hstep ih =>
    obtain ⟨hsound, hextends⟩ := step_sound hstep ih.1
    exact ⟨hsound, ih.2.trans hextends⟩

end Moment

namespace Client

theorem run_bind (session : Session σ) (code : Client α) (next : α → Bool → Client β) :
    (code.bind next).run session =
      (next (code.run session).value (code.run session).ok).run (code.run session).session := by
  induction code generalizing session with
  | done value ok => rfl
  | write operation rest ih => exact ih _ _
  | indent rest ih => exact ih _ _
  | release guard rest ih => exact ih _

/-- Code inside of other code comes to its end, and the other code goes on from there. -/
theorem leads_bind (session : Session σ) (code : Client α) (next : α → Bool → Client β) :
    Moment.Leads ⟨session, code.bind next⟩
      ⟨(code.run session).session, next (code.run session).value (code.run session).ok⟩ := by
  induction code generalizing session with
  | done value ok => exact .refl
  | write operation rest ih => exact .head rfl (ih _ _)
  | indent rest ih => exact .head rfl (ih _ _)
  | release guard rest ih => exact .head rfl (ih _)

theorem bind_done (code : Client α) : code.bind .done = code := by
  induction code with
  | done value ok => rfl
  | write operation rest ih => exact congrArg (Client.write operation) (funext ih)
  | indent rest ih => exact congrArg Client.indent (funext ih)
  | release guard rest ih => exact congrArg (Client.release guard) ih

theorem leads_run (session : Session σ) (code : Client α) :
    Moment.Leads ⟨session, code⟩
      ⟨(code.run session).session, .done (code.run session).value (code.run session).ok⟩ := by
  have hleads := leads_bind session code .done
  rwa [bind_done] at hleads

/-- A block that was opened: its body runs with a guard more, which is then released. -/
theorem run_block_of_opened {session : Session σ} {header : String} (value : α)
    (body : α → Client α)
    (h : (session.writer.writeLine (header ++ " \x7b")).ok = true) :
    (block header value body).run session =
      let ran := (body value).run (session.perform (.line (header ++ " \x7b"))).indent
      let outside := ran.session.release session.fresh
      if ran.ok then
        ⟨outside.perform (.line "\x7d"), ran.value, (outside.writer.writeLine "\x7d").ok⟩
      else ⟨outside, ran.value, false⟩ := by
  have hopened : (Operation.run session.writer (.line (header ++ " \x7b"))).ok = true := h
  rw [block, run, if_pos hopened, run, run_bind, run]
  dsimp only
  split <;> rfl

theorem run_block_of_failed {session : Session σ} {header : String} (value : α)
    (body : α → Client α)
    (h : (session.writer.writeLine (header ++ " \x7b")).ok = false) :
    (block header value body).run session =
      ⟨session.perform (.line (header ++ " \x7b")), value, false⟩ := by
  have hopened : (Operation.run session.writer (.line (header ++ " \x7b"))).ok = false := h
  rw [block, run, if_neg (by simp [hopened]), run]

end Client

namespace Session.Sound

variable {session : Session σ}

theorem run (h : session.Sound) (code : Client α) :
    (code.run session).session.Sound ∧ session.Extends (code.run session).session :=
  (code.leads_run session).sound h

/-- A block gives back the guard of its own, whether it succeeds or not. -/
theorem not_mem_block (h : session.Sound) (header : String) (value : α) (body : α → Client α) :
    session.fresh ∉ ((Client.block header value body).run session).session.alive := by
  cases hopened : (session.writer.writeLine (header ++ " \x7b")).ok with
  | true =>
    have hran := ((h.perform (.line (header ++ " \x7b"))).indent.run (body value)).1
    have hown := hran.not_mem_release session.fresh
    rw [Client.run_block_of_opened value body hopened]
    dsimp only
    split <;> exact hown
  | false =>
    rw [Client.run_block_of_failed value body hopened]
    exact fun hmem => Nat.lt_irrefl _ (h.lt_fresh _ hmem)

end Session.Sound

/-! ## Scripts -/

mutual

/-- A step as code, given the guards that the script holds, latest first. It ends with those that it
holds then. -/
def Step.code (held : List Nat) : Step → Client (List Nat)
  | .write piece => .write (.write piece) (.done held)
  | .line piece => .write (.line piece) (.done held)
  | .blank => .write .blank (.done held)
  | .indent => .indent fun guard => .done (guard :: held) true
  | .dedent =>
    match held with
    | [] => .done [] true
    | guard :: held => .release guard (.done held true)
  | .comment mark text => .write (.comment mark text) (.done held)
  | .separated separator asLines items => .write (.separated separator asLines items) (.done held)
  | .block header body => .block header held fun held => bodyCode held body
  | .fail => .done held false

/-- Steps as code. -/
def bodyCode (held : List Nat) : List Step → Client (List Nat)
  | [] => .done held true
  | step :: steps =>
    (step.code held).bind fun held ok => if ok then bodyCode held steps else .done held false

end

/-- The code of steps ended as the steps did; of the guards alive, it holds all but `others`. -/
structure Ending.Matches (ending : Ending σ (List Nat)) (result : Result σ) (others : List Nat) :
    Prop where
  ok : ending.ok = result.ok
  writer : ending.session.writer = result.progress.writer
  held : ending.value.length = result.progress.held
  alive : ending.session.alive.Perm (ending.value ++ others)

/-- The guard of the block itself is alive while the body runs, and it is not one of those that the
script holds. -/
theorem Ending.Matches.block {session : Session σ} {held others : List Nat}
    (h : session.alive.Perm (held ++ others)) (header : String) {body : List Step}
    (hbody : ∀ {inside : Session σ} {more : List Nat}, inside.alive.Perm (held ++ more) →
      ((bodyCode held body).run inside).Matches (runBody ⟨inside.writer, held.length⟩ body) more) :
    (((Step.block header body).code held).run session).Matches
      ((Step.block header body).run ⟨session.writer, held.length⟩) others := by
  rw [Step.code, run_block]
  cases hopened : (session.writer.writeLine (header ++ " \x7b")).ok with
  | false =>
    rw [Client.run_block_of_failed _ _ hopened, Result.andThen_of_failed hopened]
    exact ⟨hopened.symm, rfl, rfl, h⟩
  | true =>
    rw [Client.run_block_of_opened _ _ hopened, Result.andThen_of_ok hopened]
    have hentered : (session.perform (.line (header ++ " \x7b"))).indent.alive.Perm
        (held ++ session.fresh :: others) := (h.cons session.fresh).trans List.perm_middle.symm
    have hran : ((bodyCode held body).run
        (session.perform (.line (header ++ " \x7b"))).indent).Matches
        (runBody ⟨(session.writer.writeLine (header ++ " \x7b")).writer.indent, held.length⟩ body)
        (session.fresh :: others) := hbody hentered
    have halive := hran.alive.trans List.perm_middle
    have hmem := halive.mem_iff.mpr List.mem_cons_self
    have hrest := halive.erase session.fresh
    rw [List.erase_cons_head] at hrest
    have hclosed := congrArg (fun w : Writer σ => w.dedent.writeLine "\x7d") hran.writer
    dsimp only [Progress.lift]
    rw [Session.release, if_pos hmem, hran.ok]
    generalize runBody ⟨(session.writer.writeLine (header ++ " \x7b")).writer.indent, held.length⟩
      body = result at hran hclosed ⊢
    obtain ⟨progress, ok⟩ := result
    cases ok with
    | true =>
      exact ⟨congrArg Outcome.ok hclosed, congrArg Outcome.writer hclosed, hran.held, hrest⟩
    | false => exact ⟨rfl, congrArg Writer.dedent hran.writer, hran.held, hrest⟩

theorem Ending.Matches.write {session : Session σ} {held others : List Nat}
    (h : session.alive.Perm (held ++ others)) (operation : Operation) :
    ((Client.write operation (.done held)).run session).Matches
      (Progress.lift ⟨session.writer, held.length⟩ fun w => operation.run w) others :=
  ⟨rfl, rfl, rfl, h⟩

mutual

/-- **One step as code.** -/
theorem Step.run_code {session : Session σ} {held others : List Nat}
    (h : session.alive.Perm (held ++ others)) : (step : Step) →
      ((step.code held).run session).Matches (step.run ⟨session.writer, held.length⟩) others
  | .write piece => .write h (.write piece)
  | .line piece => .write h (.line piece)
  | .blank => .write h .blank
  | .indent => ⟨rfl, rfl, rfl, h.cons session.fresh⟩
  | .dedent => by
    match held with
    | [] => exact ⟨rfl, rfl, rfl, h⟩
    | guard :: held =>
      have hmem : guard ∈ session.alive := h.mem_iff.mpr List.mem_cons_self
      have hrest := h.erase guard
      rw [List.cons_append, List.erase_cons_head] at hrest
      rw [Step.code, Client.run, Client.run, Session.release, if_pos hmem]
      exact ⟨rfl, rfl, rfl, hrest⟩
  | .comment mark text => .write h (.comment mark text)
  | .separated separator asLines items => .write h (.separated separator asLines items)
  | .block header body => .block h header fun hinside => run_bodyCode hinside body
  | .fail => ⟨rfl, rfl, rfl, h⟩

/-- **Steps as code.** -/
theorem run_bodyCode {session : Session σ} {held others : List Nat}
    (h : session.alive.Perm (held ++ others)) : (script : List Step) →
      ((bodyCode held script).run session).Matches (runBody ⟨session.writer, held.length⟩ script)
        others
  | [] => ⟨rfl, rfl, rfl, h⟩
  | step :: steps => by
    have hran := Step.run_code h step
    have hrest := run_bodyCode hran.alive steps
    rw [hran.writer, hran.held] at hrest
    rw [bodyCode, Client.run_bind, runBody, hran.ok]
    split
    · exact hrest
    · rename_i hfailed
      rw [Bool.not_eq_true] at hfailed
      exact ⟨hfailed.symm, hran.writer, hran.held, hran.alive⟩

end

/-! ## The level -/

/-- What is true of a moment: the level is the number of guards alive; a guard that is released
takes one from a level that is not zero; and a block that is called comes to its end, has given back
its own guard, and has changed the level by the guards that its body left alive and those of before
that it released. -/
structure Moment.Balanced (moment : Moment σ α) : Prop where
  level : moment.session.writer.level = moment.session.alive.length
  release : ∀ guard next, moment.code = .release guard next → guard ∈ moment.session.alive →
    moment.session.writer.dedent.level + 1 = moment.session.writer.level
  block : ∀ {β : Type} (header : String) (value : β) (body : β → Client β)
    (next : β → Bool → Client α), moment.code = (Client.block header value body).bind next →
      let before := moment.session
      let ending := (Client.block header value body).run before
      moment.Leads ⟨ending.session, next ending.value ending.ok⟩ ∧
        before.fresh ∉ ending.session.alive ∧
        (ending.session.writer.level : ℤ) = before.writer.level +
          (before.created ending.session).length - (before.dropped ending.session).length

theorem Moment.balanced_of_sound {moment : Moment σ α} (h : moment.session.Sound) :
    moment.Balanced where
  level := h.level
  release _ _ _ hmem := h.level_dedent hmem
  block header value body next hcode := by
    obtain ⟨hsound, hextends⟩ := h.run (Client.block header value body)
    refine ⟨?_, h.not_mem_block header value body, hextends.level h hsound⟩
    have hleads := Client.leads_bind moment.session (Client.block header value body) next
    rwa [← hcode] at hleads

/-- **The level is the number of guards alive,** at every moment of every code on every sink. Each
script is such code, so its level is the number of guards it holds. -/
theorem level_counts_guards (sink : σ) (indentation : String) :
    (∀ {α : Type} (code : Client α) (moment : Moment σ α),
      Moment.Leads ⟨.new sink indentation, code⟩ moment → moment.Balanced) ∧
    ∀ script, ((bodyCode [] script).run (.new sink indentation)).Matches
        (runBody ⟨{ sink, indentation }, 0⟩ script) [] ∧
      (runBody (⟨{ sink, indentation }, 0⟩ : Progress σ) script).progress.writer.level =
        (runBody (⟨{ sink, indentation }, 0⟩ : Progress σ) script).progress.held := by
  have hnew := Session.Sound.new sink indentation
  refine ⟨fun code moment hleads => Moment.balanced_of_sound (hleads.sound hnew).1,
    fun script => ?_⟩
  have hran : ((bodyCode [] script).run (.new sink indentation)).Matches
    (runBody ⟨{ sink, indentation }, 0⟩ script) [] := run_bodyCode (List.Perm.refl []) script
  refine ⟨hran, ?_⟩
  have hlevel := (hnew.run (bodyCode [] script)).1.level
  rw [hran.writer, hran.alive.length_eq, List.append_nil] at hlevel
  exact hlevel.trans hran.held

/-- A block whose body releases a guard of the code around it and takes one that it keeps. -/
def strayBlock (outer : Nat) : Client Unit :=
  .block "mod x" () fun _ =>
    .release outer (.indent fun _ => .write (.line "unfinished") (.done ()))

def stray : Client Unit :=
  .indent fun first => .indent fun second =>
    (strayBlock first).bind fun _ _ => .release second (.done () true)

/-- The session in which the block is called, on a sink that the header of the block fills. -/
def strayCall : Session Sink :=
  (Session.new { room := some 12 } "  ").indent.indent

theorem level_counts_guards_stray :
    Moment.Leads ⟨.new { room := some 12 } "  ", stray⟩
        ⟨strayCall, (strayBlock 0).bind fun _ _ => .release 1 (.done () true)⟩ ∧
      ((strayBlock 0).run strayCall).ok = false ∧
      strayCall.created ((strayBlock 0).run strayCall).session = [3] ∧
      strayCall.dropped ((strayBlock 0).run strayCall).session = [0] ∧
      ((strayBlock 0).run strayCall).session.writer.level = 2 := by
  have hleads : Moment.Leads ⟨.new { room := some 12 } "  ", stray⟩
      ⟨strayCall, (strayBlock 0).bind fun _ _ => .release 1 (.done () true)⟩ :=
    .head rfl (.head rfl .refl)
  have hcreated : strayCall.created ((strayBlock 0).run strayCall).session = [3] := by
    decide +kernel
  have hdropped : strayCall.dropped ((strayBlock 0).run strayCall).session = [0] := by
    decide +kernel
  have hbefore : strayCall.writer.level = 2 := rfl
  obtain ⟨-, -, hlevel⟩ := ((level_counts_guards _ _).1 _ _ hleads).block "mod x" ()
    (fun _ => .release 0 (.indent fun _ => .write (.line "unfinished") (.done ())))
    (fun _ _ => .release 1 (.done () true)) rfl
  refine ⟨hleads, by decide +kernel, hcreated, hdropped, ?_⟩
  rw [← strayBlock, hcreated, hdropped, hbefore] at hlevel
  exact Int.ofNat.inj hlevel

end Bindery.Layout
