import Mathlib.Logic.Function.Basic
import ScalarServer.Proofs.AddressSpace.Writes
import ScalarServer.Proofs.Http.Session
import ScalarServer.Proofs.Http.Stages

/-!
# Clients at the same time

Any number of handlers share an address space, and take their steps in any order. What one of them
has looked up may be out of date when it goes on. It never matters: variables keep their types and
their access, so a decoded value can be written whenever it is its turn.

- `Scene`, `Scene.move`, `Scene.after`: the handlers with their address space, and their steps;
- `Scene.written`: what has been written;
- `Course`: what is known about a handler, by how far it has come;
- `Sound`, `Sound.move`: what every step keeps;
- `interleaved_exact`: what holds after any steps of any handlers.
-/

namespace ScalarServer.Http

open AddressSpace

variable {ι : Type} {v : Service} {s : AddressSpace} {id : NodeId} {c : ServerConfig}
  {boot : Bootstrapped} {ds : List VariableDefinition}

/-! ## What has been written -/

/-- What clients are told, apart from the time, about a variable after some writes. -/
def shownVariable (boot : Bootstrapped) (writes : List (NodeId × Value)) (d : VariableDefinition) :
    VariableInfo :=
  ⟨boot.variableId d, d.name, d.type, (lastWritten (boot.variableId d) writes).getD d.value, true,
    0⟩

/-- The list of all variables after some writes. -/
def shown (boot : Bootstrapped) (ds : List VariableDefinition) (writes : List (NodeId × Value)) :
    List VariableInfo :=
  ds.map (shownVariable boot writes)

/-- One more write shows in the list of all variables. -/
theorem shown_append (boot : Bootstrapped) (ds : List VariableDefinition)
    (writes : List (NodeId × Value)) (stored : Option (NodeId × Value)) :
    shown boot ds (writes ++ stored.toList) = listAfterStore (shown boot ds writes) stored := by
  cases stored with
  | none => rw [Option.toList_none, List.append_nil, listAfterStore]
  | some write =>
    obtain ⟨id, value⟩ := write
    rw [Option.toList_some, shown, shown, listAfterStore, List.map_map]
    apply List.map_congr_left
    intro d _
    -- the write is the last one of its variable, and does not count for any other
    rw [Function.comp_apply, shownVariable, lastWritten_append, lastWritten_singleton]
    by_cases hid : boot.variableId d = id
    · simp [shownVariable, hid]
    · have hid' : ¬ id = boot.variableId d := fun h => hid h.symm
      simp [shownVariable, hid, hid']

section Variables

variable {start : AddressSpace} {writes : List (NodeId × Value)} {d : VariableDefinition}

/-- A variable that can be looked up is one of the configuration, and is as it is listed. -/
theorem Steady.exists_definition (h : Steady start (shown boot ds writes) s) (hwell : s.WellFormed)
    {info : VariableInfo} (hinfo : s.variableInfo id = .ok info) :
    ∃ d ∈ ds, id = boot.variableId d ∧ info.untimed = shownVariable boot writes d := by
  obtain ⟨hmem, hid⟩ := (variableInfo_eq_ok_iff_mem hwell).mp hinfo
  have hlisted : info.untimed ∈ s.allVariables.map VariableInfo.untimed := List.mem_map_of_mem hmem
  rw [h.listed] at hlisted
  obtain ⟨d, hd, heq⟩ := List.mem_map.mp hlisted
  exact ⟨d, hd, hid.symm.trans (congrArg VariableInfo.id heq).symm, heq.symm⟩

/-- A variable of the configuration can be looked up. -/
theorem Steady.exists_variableInfo (h : Steady start (shown boot ds writes) s)
    (hwell : s.WellFormed) (hd : d ∈ ds) :
    ∃ info, s.variableInfo (boot.variableId d) = .ok info ∧
      info.untimed = shownVariable boot writes d := by
  have hlisted : shownVariable boot writes d ∈ s.allVariables.map VariableInfo.untimed := by
    rw [h.listed]
    exact List.mem_map_of_mem hd
  exact exists_variableInfo_of_mem hwell hlisted

/-- A value of the right type can be written to a variable of the configuration. -/
theorem Steady.write (h : Steady start (shown boot ds writes) s) (hwell : s.WellFormed)
    (hd : d ∈ ds) {value : Value} (htype : value.type = d.type) :
    ((AddressSpace.write (boot.variableId d) value).run s).result = .ok () ∧
      ((AddressSpace.write (boot.variableId d) value).run s).state =
        s.withValue (boot.variableId d) value := by
  obtain ⟨info, hinfo, hshown⟩ := h.exists_variableInfo hwell hd
  obtain ⟨node, hnode, rfl⟩ := variableInfo_eq_ok_iff.mp hinfo
  have haccess : node.access = .readWrite :=
    of_decide_eq_true (congrArg VariableInfo.writable hshown)
  have hnodeType : node.type = d.type := congrArg VariableInfo.type hshown
  exact write_of_writable hnode haccess (htype.trans hnodeType.symm)

end Variables

/-! ## Scenes -/

/-- Handlers, as far as they have come, with the address space that they share. -/
structure Scene (ι : Type) where
  /-- The address space. -/
  space : AddressSpace
  /-- How far the handler of each client has come. -/
  stages : ι → Stage

namespace Scene

variable [DecidableEq ι] {i j : ι}

/-- The scene where nothing has been done yet. -/
def start (v : Service) (clients : ι → Client) (s : AddressSpace) : Scene ι :=
  ⟨s, fun i => (clients i).begin v⟩

/-- The scene after one handler has taken a step. -/
def move (scene : Scene ι) (i : ι) : Scene ι where
  space := ((scene.stages i).step.run scene.space).state
  stages := Function.update scene.stages i ((scene.stages i).next scene.space)

/-- The scene after handlers have taken steps, in this order. -/
def after (scene : Scene ι) (moves : List ι) : Scene ι :=
  moves.foldl move scene

/-- What is written when handlers take steps, in this order. -/
def written (scene : Scene ι) : List ι → List (NodeId × Value)
  | [] => []
  | i :: moves => (scene.stages i).writes?.toList ++ (scene.move i).written moves

theorem after_append (scene : Scene ι) (older newer : List ι) :
    scene.after (older ++ newer) = (scene.after older).after newer :=
  List.foldl_append

theorem after_concat (scene : Scene ι) (moves : List ι) (i : ι) :
    scene.after (moves ++ [i]) = (scene.after moves).move i :=
  after_append ..

theorem written_append (scene : Scene ι) (older newer : List ι) :
    scene.written (older ++ newer) = scene.written older ++ (scene.after older).written newer := by
  induction older generalizing scene with
  | nil => rfl
  | cons i older ih =>
    rw [List.cons_append, written, written, ih, List.append_assoc]
    rfl

theorem written_concat (scene : Scene ι) (moves : List ι) (i : ι) :
    scene.written (moves ++ [i]) =
      scene.written moves ++ ((scene.after moves).stages i).writes?.toList := by
  rw [written_append, written, written, List.append_nil]

theorem stages_move_self (scene : Scene ι) (i : ι) :
    (scene.move i).stages i = (scene.stages i).next scene.space :=
  Function.update_self ..

theorem stages_move_of_ne (scene : Scene ι) (h : i ≠ j) :
    (scene.move j).stages i = scene.stages i :=
  Function.update_of_ne h ..

theorem space_move (scene : Scene ι) (i : ι) :
    (scene.move i).space = ((scene.stages i).call.run scene.space).state :=
  Action.recover_state ..

/-- A move is one step of one handler, and the others stay where they are. -/
theorem run_step (scene : Scene ι) (i : ι) :
    ((scene.stages i).step.run scene.space).result = .ok ((scene.move i).stages i) ∧
      ((scene.stages i).step.run scene.space).state = (scene.move i).space ∧
      ∀ j, j ≠ i → (scene.move i).stages j = scene.stages j := by
  refine ⟨?_, rfl, fun j h => stages_move_of_ne scene h⟩
  rw [Stage.step_result, stages_move_self]

/-- A handler has no more than the steps left that it has not taken. -/
theorem left_after (scene : Scene ι) (moves : List ι) (i : ι) :
    ((scene.after moves).stages i).left ≤ (scene.stages i).left - moves.count i := by
  -- by induction on the moves: a move of another handler leaves this one where it is
  induction moves using List.reverseRecOn with
  | nil => exact Nat.le_refl _
  | append_singleton moves j ih =>
    rw [after_concat]
    by_cases h : i = j
    · subst h
      have hnext := Stage.left_next ((scene.after moves).stages i) (scene.after moves).space
      rw [stages_move_self, List.count_append, List.count_singleton_self]
      omega
    · rw [stages_move_of_ne _ h, List.count_append, List.count_singleton,
        beq_false_of_ne (Ne.symm h)]
      exact ih

/-- Since a handler has written a value, its variable holds that, or what has been written to it
since. -/
theorem lastWritten_since {scene : Scene ι} {older : List ι} {value : Value}
    (hwrote : (scene.after older).stages i = .write id value) (newer : List ι) :
    lastWritten id (scene.written (older ++ i :: newer)) =
      some ((lastWritten id ((scene.after (older ++ [i])).written newer)).getD value) := by
  have hwritten : scene.written (older ++ [i]) = scene.written older ++ [(id, value)] := by
    rw [written_concat, hwrote]
    rfl
  -- what was written before the handler's own write does not count any more
  rw [List.append_cons, written_append, hwritten, lastWritten_append, lastWritten_append,
    lastWritten_singleton, if_pos rfl]
  cases lastWritten id ((scene.after (older ++ [i])).written newer) <;> rfl

end Scene

/-! ## The course of a handler -/

/-- What a client is to write: the path names the variable of a definition, and the value is
decoded for its type. -/
inductive Client.Writes (v : Service) (boot : Bootstrapped) (ds : List VariableDefinition) :
    Client → VariableDefinition → Value → Prop
  | writer {path : String} {w : WriteRequest} {d : VariableDefinition} {value : Value}
      (hid : resolveNodeId v path = .ok (boot.variableId d)) (hd : d ∈ ds)
      (hdecode : w.decode d.type = .ok value) : Writes v boot ds (.writer path w) d value

theorem Client.Writes.mem {client : Client} {d : VariableDefinition} {value : Value}
    (h : client.Writes v boot ds d value) : d ∈ ds := by
  cases h with
  | writer _ hd _ => exact hd

theorem Client.Writes.type_eq {client : Client} {d : VariableDefinition} {value : Value}
    (h : client.Writes v boot ds d value) : value.type = d.type := by
  cases h with
  | writer _ _ hdecode => exact WriteRequest.type_of_decode hdecode

/-- A client who has a value to write finds the variable, and the type to decode the value for. -/
theorem Steady.decode_of_writes {space : AddressSpace} {writes : List (NodeId × Value)}
    (h : Steady space (shown boot ds writes) s) (hwell : s.WellFormed) {path : String}
    {w : WriteRequest} {d : VariableDefinition} {value : Value}
    (hid : resolveNodeId v path = .ok id)
    (hwrites : (Client.writer path w).Writes v boot ds d value) :
    ∃ info, s.variableInfo id = .ok info ∧ w.decode info.type = .ok value := by
  cases hwrites with
  | writer hid' hd hdecode =>
    rw [hid, Except.ok.injEq] at hid'
    obtain ⟨info, hinfo, hshown⟩ := h.exists_variableInfo hwell hd
    have htype : info.type = d.type := congrArg VariableInfo.type hshown
    exact ⟨info, hid' ▸ hinfo, htype ▸ hdecode⟩

/-- What is behind the answer to a client who has written a variable: the write, then steps of
others, and then the look-up. The answer shows the value as it was at that look-up: the one that
was written last since the client's own, or else the client's own. -/
structure Confirmed [DecidableEq ι] (boot : Bootstrapped) (start : Scene ι) (i : ι)
    (moves : List ι) (response : Response) (d : VariableDefinition) (value : Value)
    (older newer rest : List ι) : Prop where
  /-- These are all steps: those before the write, the write, those up to the look-up, the look-up,
  and the rest. -/
  moves_eq : moves = older ++ i :: (newer ++ i :: rest)
  /-- The handler has written its value. -/
  wrote : (start.after older).stages i = .write (boot.variableId d) value
  /-- Its next step has been to look the variable up. -/
  looked : (start.after (older ++ i :: newer)).stages i = .confirm (boot.variableId d)
  /-- It has answered with what it has found. -/
  shows : response.Shows ⟨boot.variableId d, d.name, d.type,
    (lastWritten (boot.variableId d) ((start.after (older ++ [i])).written newer)).getD value,
    true, 0⟩

variable [DecidableEq ι] {clients : ι → Client} {start : Scene ι} {i j : ι} {moves : List ι}
  {stage : Stage}

/-- What is known about the handler of a client, by how far it has come. -/
def Course (v : Service) (boot : Bootstrapped) (ds : List VariableDefinition)
    (clients : ι → Client) (start : Scene ι) (i : ι) (moves : List ι) : Stage → Prop
  | .read _ => ∃ path, clients i = .reader path
  | .check id w => ∃ path, clients i = .writer path w ∧ resolveNodeId v path = .ok id
  | .write id value => ∃ d, id = boot.variableId d ∧ (clients i).Writes v boot ds d value
  | .confirm id => ∃ d value older newer, id = boot.variableId d ∧
      (clients i).Writes v boot ds d value ∧ moves = older ++ i :: newer ∧
      (start.after older).stages i = .write id value
  | .answered response => ∀ path w, clients i = .writer path w →
      (response.status ≠ 200 ∧ ∀ d value, ¬ (clients i).Writes v boot ds d value) ∨
        ∃ d value older newer rest, (clients i).Writes v boot ds d value ∧
          Confirmed boot start i moves response d value older newer rest

/-- This stays so when a move leaves the handler where it is. -/
theorem Course.later (h : Course v boot ds clients start i moves stage) (j : ι) :
    Course v boot ds clients start i (moves ++ [j]) stage := by
  cases stage with
  | read id => exact h
  | check id w => exact h
  | write id value => exact h
  | confirm id =>
    -- one more move since the write
    obtain ⟨d, value, older, newer, hid, hwrites, rfl, hwrote⟩ := h
    exact ⟨d, value, older, newer ++ [j], hid, hwrites, by simp, hwrote⟩
  | answered response =>
    intro path w hclient
    rcases h path w hclient with hrefused | ⟨d, value, older, newer, rest, hwrites, hconfirmed⟩
    · exact .inl hrefused
    · -- one more move since the answer
      refine .inr ⟨d, value, older, newer, rest ++ [j], hwrites,
        { hconfirmed with moves_eq := ?_ }⟩
      rw [hconfirmed.moves_eq]
      simp

/-- A client who has nothing to write may be refused. -/
theorem course_ofError {e : Error} (hstatus : Response.statusOf e ≠ 200)
    (hnone : ∀ d value, ¬ (clients i).Writes v boot ds d value) :
    Course v boot ds clients start i moves (.answered (.ofError e)) :=
  fun _ _ _ => .inl ⟨hstatus, hnone⟩

theorem course_begin (v : Service) (boot : Bootstrapped) (ds : List VariableDefinition)
    (clients : ι → Client) (start : Scene ι) (i : ι) :
    Course v boot ds clients start i [] ((clients i).begin v) := by
  cases hclient : clients i with
  | reader path =>
    rw [Client.begin]
    cases resolveNodeId v path with
    | error e =>
      intro path' w hclient'
      rw [hclient] at hclient'
      cases hclient'
    | ok id => exact ⟨path, hclient⟩
  | writer path w =>
    rw [Client.begin]
    cases hid : resolveNodeId v path with
    | error e =>
      refine course_ofError (by simp [statusOf_resolveNodeId hid]) fun d value hwrites => ?_
      rw [hclient] at hwrites
      cases hwrites with
      | writer hid' _ _ =>
        rw [hid] at hid'
        cases hid'
    | ok id => exact ⟨path, hclient, hid⟩

/-! ## What every step keeps -/

/-- What holds of a scene, after the steps that have led to it. -/
structure Sound (v : Service) (boot : Bootstrapped) (ds : List VariableDefinition)
    (clients : ι → Client) (start : Scene ι) (moves : List ι) (scene : Scene ι) : Prop where
  /-- The nodes are in order. -/
  wellFormed : scene.space.WellFormed
  /-- Variables have the values that have been written last, and all else is as at the start. -/
  steady : Steady start.space (shown boot ds (start.written moves)) scene.space
  /-- Every handler has come as far as it should have. -/
  course : ∀ i, Course v boot ds clients start i moves (scene.stages i)

/-- Whatever has happened in between, a value that has been decoded can be written. -/
theorem Sound.write (hsound : Sound v boot ds clients start moves (start.after moves))
    {value : Value} (hstage : (start.after moves).stages i = .write id value) :
    ((AddressSpace.write id value).run (start.after moves).space).result = .ok () ∧
      ((AddressSpace.write id value).run (start.after moves).space).state =
        (start.after moves).space.withValue id value := by
  have hcourse := hsound.course i
  rw [hstage] at hcourse
  obtain ⟨d, rfl, hwrites⟩ := hcourse
  exact hsound.steady.write hsound.wellFormed hwrites.mem hwrites.type_eq

/-- A step changes the address space by what it writes. -/
theorem Sound.space_move (hsound : Sound v boot ds clients start moves (start.after moves))
    (i : ι) :
    ((start.after moves).move i).space =
      afterStore (start.after moves).space ((start.after moves).stages i).writes? := by
  rw [Scene.space_move]
  cases hwrites : ((start.after moves).stages i).writes? with
  | none => exact Stage.call_state hwrites
  | some write =>
    cases hstage : (start.after moves).stages i with
    | write id value =>
      rw [hstage] at hwrites
      cases hwrites
      obtain ⟨hresult, hstate⟩ := hsound.write hstage
      simp [Stage.call, hresult, hstate, afterStore]
    | read id | check id w | confirm id | answered response =>
      rw [hstage] at hwrites
      cases hwrites

/-- The look-up of a type: the client is refused if there is no such variable, or if nothing can be
decoded for its type. -/
theorem Sound.course_check (hsound : Sound v boot ds clients start moves (start.after moves))
    {path : String} {w : WriteRequest} (hclient : clients i = .writer path w)
    (hid : resolveNodeId v path = .ok id) :
    Course v boot ds clients start i (moves ++ [i])
      ((Stage.check id w).next (start.after moves).space) := by
  have hfinds : ∀ {d value}, (clients i).Writes v boot ds d value →
      ∃ info, (start.after moves).space.variableInfo id = .ok info ∧
        w.decode info.type = .ok value := by
    intro d value hwrites
    exact hsound.steady.decode_of_writes hsound.wellFormed hid (hclient ▸ hwrites)
  rw [Stage.next_check]
  cases hinfo : (start.after moves).space.variableInfo id with
  | error e =>
    refine course_ofError (by simp [statusOf_variableInfo hinfo]) fun d value hwrites => ?_
    obtain ⟨info, hfound, -⟩ := hfinds hwrites
    rw [hinfo] at hfound
    cases hfound
  | ok info =>
    dsimp only
    cases hdecode : w.decode info.type with
    | error e =>
      refine course_ofError (by simp [WriteRequest.statusOf_decode hdecode])
        fun d value hwrites => ?_
      obtain ⟨found, hfound, hdecodes⟩ := hfinds hwrites
      rw [hinfo, Except.ok.injEq] at hfound
      rw [← hfound, hdecode] at hdecodes
      cases hdecodes
    | ok value =>
      obtain ⟨d, hd, rfl, hshown⟩ := hsound.steady.exists_definition hsound.wellFormed hinfo
      have htype : info.type = d.type := congrArg VariableInfo.type hshown
      exact ⟨d, rfl, hclient ▸ .writer hid hd (htype ▸ hdecode)⟩

/-- The look-up after a write finds what has been written by the handler itself, or since. -/
theorem Sound.course_confirm (hsound : Sound v boot ds clients start moves (start.after moves))
    {d : VariableDefinition} {value : Value} {older newer : List ι}
    (hwrites : (clients i).Writes v boot ds d value) (hmoves : moves = older ++ i :: newer)
    (hwrote : (start.after older).stages i = .write (boot.variableId d) value)
    (hstage : (start.after moves).stages i = .confirm (boot.variableId d)) :
    Course v boot ds clients start i (moves ++ [i])
      ((Stage.confirm (boot.variableId d)).next (start.after moves).space) := by
  obtain ⟨info, hinfo, hshown⟩ := hsound.steady.exists_variableInfo hsound.wellFormed hwrites.mem
  rw [Stage.next_confirm, hinfo]
  intro _ _ _
  refine .inr ⟨d, value, older, newer, [], hwrites, ?_, hwrote, hmoves ▸ hstage, ?_⟩
  · rw [hmoves]
    simp
  · have hresponse : (Response.ok info.toJson).Shows info.untimed :=
      Response.shows_ok info.untimed
    rwa [hshown, shownVariable, hmoves, Scene.lastWritten_since hwrote,
      Option.getD_some] at hresponse

/-- The step of a handler itself. -/
theorem Sound.course_self (hsound : Sound v boot ds clients start moves (start.after moves))
    (i : ι) :
    Course v boot ds clients start i (moves ++ [i])
      (((start.after moves).stages i).next (start.after moves).space) := by
  have hcourse := hsound.course i
  cases hstage : (start.after moves).stages i with
  | read id =>
    rw [hstage] at hcourse
    obtain ⟨path, hclient⟩ := hcourse
    -- a reader has no write to account for
    rw [Stage.next_read]
    intro path' w hclient'
    rw [hclient] at hclient'
    cases hclient'
  | check id w =>
    rw [hstage] at hcourse
    obtain ⟨path, hclient, hid⟩ := hcourse
    exact hsound.course_check hclient hid
  | write id value =>
    rw [hstage] at hcourse
    obtain ⟨d, hid, hwrites⟩ := hcourse
    -- the write is this move, and there has been none since
    rw [Stage.next_write, (hsound.write hstage).1]
    exact ⟨d, value, moves, [], hid, hwrites, rfl, hstage⟩
  | confirm id =>
    rw [hstage] at hcourse
    obtain ⟨d, value, older, newer, rfl, hwrites, hmoves, hwrote⟩ := hcourse
    exact hsound.course_confirm hwrites hmoves hwrote hstage
  | answered response =>
    rw [hstage] at hcourse
    rw [Stage.next_answered]
    exact hcourse.later i

/-- What holds of a scene still holds after one more step, whoever takes it. -/
theorem Sound.move (hsound : Sound v boot ds clients start moves (start.after moves)) (i : ι) :
    Sound v boot ds clients start (moves ++ [i]) (start.after (moves ++ [i])) where
  wellFormed := by
    rw [Scene.after_concat, hsound.space_move]
    exact wellFormed_afterStore hsound.wellFormed _
  steady := by
    rw [Scene.after_concat, hsound.space_move, Scene.written_concat, shown_append]
    exact hsound.steady.afterStore hsound.wellFormed _
  course := by
    intro j
    rw [Scene.after_concat]
    by_cases h : j = i
    · rw [h, Scene.stages_move_self]
      exact hsound.course_self i
    · rw [Scene.stages_move_of_ne _ h]
      exact (hsound.course j).later i

/-- Whoever has moved, and how often. -/
theorem sound_after (h : ((bootstrap c).run empty).result = .ok boot) (v : Service)
    (clients : ι → Client) (moves : List ι) :
    Sound v boot c.definitions clients (.start v clients ((bootstrap c).run empty).state) moves
      ((Scene.start v clients ((bootstrap c).run empty).state).after moves) := by
  induction moves using List.reverseRecOn with
  | nil =>
    exact ⟨wellFormed_of_bootstrap h, steady_start (v := v) h,
      fun i => course_begin v boot c.definitions clients _ i⟩
  | append_singleton moves i ih => exact ih.move i

/-- Whatever requests for single variables reach a server at the same time, and in whatever order
their handlers take their steps: a value that has been decoded is written when it is its turn;
variables have the values that have been written last, and all else is as at the start; every
handler answers after three steps at the latest; and a client who writes is answered with success
exactly if there is a value to be written, and is then shown this value, or one that has been
written since. With every move one handler takes a step, while the others stay where they are; and
left alone, a handler does in its steps what it has to do for its request. -/
theorem interleaved_exact (h : ((bootstrap c).run empty).result = .ok boot) (v : Service)
    (clients : ι → Client) (moves : List ι) :
    let start := Scene.start v clients ((bootstrap c).run empty).state
    (∀ i id value, (start.after moves).stages i = .write id value →
      ((AddressSpace.write id value).run (start.after moves).space).result = .ok ()) ∧
    Steady start.space (shown boot c.definitions (start.written moves))
      (start.after moves).space ∧
    (∀ i, 3 ≤ moves.count i → ∃ response, (start.after moves).stages i = .answered response) ∧
    (∀ i path w response, clients i = .writer path w →
      (start.after moves).stages i = .answered response →
      (response.status = 200 ↔ ∃ d value, (clients i).Writes v boot c.definitions d value) ∧
      (response.status = 200 →
        ∃ d value older newer rest, (clients i).Writes v boot c.definitions d value ∧
          Confirmed boot start i moves response d value older newer rest)) ∧
    (∀ i, (((start.after moves).stages i).step.run (start.after moves).space).result =
        .ok ((start.after (moves ++ [i])).stages i) ∧
      (((start.after moves).stages i).step.run (start.after moves).space).state =
        (start.after (moves ++ [i])).space ∧
      ∀ j, j ≠ i → (start.after (moves ++ [i])).stages j = (start.after moves).stages j) ∧
    ∀ i, (do
      let first ← (start.stages i).step
      let second ← first.step
      second.step) = Stage.answered <$> answer v (clients i).request := by
  intro start
  have hsound := sound_after h v clients moves
  refine ⟨?_, hsound.steady, ?_, ?_, ?_, fun i => step_alone v (clients i)⟩
  · intro i id value hstage
    exact (hsound.write hstage).1
  · intro i hcount
    have hleft := start.left_after moves i
    have hthree : (start.stages i).left ≤ 3 := by
      cases start.stages i <;> simp [Stage.left]
    cases hstage : (start.after moves).stages i with
    | answered response => exact ⟨response, rfl⟩
    | read | check | write | confirm =>
      rw [hstage, Stage.left] at hleft
      omega
  · intro i path w response hclient hstage
    have hcourse := hsound.course i
    rw [hstage] at hcourse
    rcases hcourse path w hclient with
      ⟨hstatus, hnone⟩ | ⟨d, value, older, newer, rest, hwrites, hconfirmed⟩
    · refine ⟨⟨fun heq => absurd heq hstatus, ?_⟩, fun heq => absurd heq hstatus⟩
      rintro ⟨d, value, hwrites⟩
      exact absurd hwrites (hnone d value)
    · have hstatus : response.status = 200 := by rw [hconfirmed.shows.response_eq]
      exact ⟨⟨fun _ => ⟨d, value, hwrites⟩, fun _ => hstatus⟩,
        fun _ => ⟨d, value, older, newer, rest, hwrites, hconfirmed⟩⟩
  · intro i
    rw [Scene.after_concat]
    exact (start.after moves).run_step i

/-- Two clients who write the same variable at the same time: each has looked up its type before
the other one writes. -/
theorem interleaved_exact_default :
    ∃ (boot : Bootstrapped) (clients : Bool → Client) (response : Response),
      ((Scene.start ⟨.anonymous, 2, ""⟩ clients ((bootstrap .default).run empty).state).after
        [true, false, true, false, true]).stages true = .answered response ∧
      response.status = 200 ∧
      ∃ d value older newer rest, (clients true).Writes ⟨.anonymous, 2, ""⟩ boot
          ServerConfig.default.definitions d value ∧
        Confirmed boot (Scene.start ⟨.anonymous, 2, ""⟩ clients
          ((bootstrap .default).run empty).state) true [true, false, true, false, true]
          response d value older newer rest := by
  have hboot := bootstrap_of_bootable ServerConfig.bootable_default
  let clients : Bool → Client := fun first => .writer "LablinkTest/ScalarTypes/LlTestInt16"
    ⟨.number (if first then .integer (-7) (by decide) else .integer 8 (by decide)), false⟩
  obtain ⟨-, -, hends, hanswers, -⟩ :=
    interleaved_exact hboot ⟨.anonymous, 2, ""⟩ clients [true, false, true, false, true]
  obtain ⟨response, hresponse⟩ := hends true (by decide)
  obtain ⟨hsuccess, hconfirmed⟩ := hanswers true _ _ response rfl hresponse
  have hwrites : (clients true).Writes ⟨.anonymous, 2, ""⟩ ServerConfig.default.bootstrapped
      ServerConfig.default.definitions
      ⟨"LlTestInt16", .integer .int16 16 (by decide), .integer .int16⟩
      (.integer .int16 (-7) (by decide)) :=
    .writer (by decide +kernel) (by decide +kernel) rfl
  have hstatus := hsuccess.mpr ⟨_, _, hwrites⟩
  exact ⟨_, clients, response, hresponse, hstatus, hconfirmed hstatus⟩

end ScalarServer.Http
