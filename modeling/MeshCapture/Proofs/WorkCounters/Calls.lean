import MeshCapture.Proofs.Conduct.Lifetimes

/-! # Counted calls

Three counters tell of calls. Draws count with the list that they are handed
over in, taken or refused, and lists count when they are taken. The third one
counts how often the scratch set was replaced, which is also how often the
device was waited for with nothing in flight. -/

namespace MeshCapture

/-! ## Numbers of calls -/

namespace Call

def draws : Call → Nat
  | execute list _ => list.toList.countP Command.isDraw
  | _ => 0

def isSync : Call → Bool
  | sync => true
  | _ => false

theorem draws_of_idle {call : Call} (idle : call.isExecute = false) :
    call.draws = 0 := by
  cases call <;> first | rfl | cases idle

theorem isSync_of_quiet {call : Call} (quiet : call.isQuiet = true) :
    call.isSync = false := by
  cases call <;> first | rfl | cases quiet

theorem isSync_of_made {call : Call} {resource : Resource}
    (made : call.made? = some resource) : call.isSync = false := by
  cases call <;> first | rfl | cases made

theorem isSync_of_freed {call : Call} {resource : Resource}
    (freed : call.freed? = some resource) : call.isSync = false := by
  cases call <;> first | rfl | cases freed

end Call

def handedDraws : (calls : List Call) → Nat
  | [] => 0
  | call :: rest => call.draws + handedDraws rest

def takenLists (calls : List Call) : Nat :=
  calls.countP fun call => call.executed?.isSome

def waits (calls : List Call) : Nat :=
  calls.countP Call.isSync

/-- Waits with nothing in flight, `flying` telling whether there was something
in front of the calls. -/
def idleWaitsFrom (flying : Bool) : (calls : List Call) → Nat
  | [] => 0
  | call :: rest =>
      (if call.isSync && !flying then 1 else 0) +
        idleWaitsFrom (call.inFlightAfter flying) rest

def idleWaits (calls : List Call) : Nat :=
  idleWaitsFrom false calls

section

variable (calls : List Call) (call : Call)

@[simp] theorem handedDraws_concat :
    handedDraws (calls ++ [call]) = handedDraws calls + call.draws := by
  induction calls with
  | nil => exact Nat.add_comm _ _
  | cons first rest induction =>
      rw [List.cons_append, handedDraws, handedDraws, induction,
        Nat.add_assoc]

@[simp] theorem takenLists_concat :
    takenLists (calls ++ [call]) =
      takenLists calls + if call.executed?.isSome then 1 else 0 := by
  simp [takenLists, List.countP_singleton]

@[simp] theorem waits_concat :
    waits (calls ++ [call]) = waits calls + if call.isSync then 1 else 0 := by
  simp [waits, List.countP_singleton]

@[simp] theorem idleWaits_concat :
    idleWaits (calls ++ [call]) =
      idleWaits calls + if call.isSync && !inFlight calls then 1 else 0 := by
  have counted (flying : Bool) : idleWaitsFrom flying (calls ++ [call]) =
      idleWaitsFrom flying calls +
        if call.isSync && !calls.foldl Call.inFlightAfter flying then 1
        else 0 := by
    induction calls generalizing flying with
    | nil => simp [idleWaitsFrom]
    | cons first rest induction =>
        rw [List.cons_append, idleWaitsFrom, idleWaitsFrom, induction,
          Nat.add_assoc]
        rfl
  exact counted false

end

/-! ## The law -/

/-- The counters tell of the calls, up to the word range. Every wait is one for
a list that was taken or one with nothing in flight. -/
structure Counters.TellsCalls (counters : Counters) (calls : List Call) :
    Prop where
  draws : counters.streamOutDraws = .ofNat (handedDraws calls)
  lists : counters.submissions = .ofNat (takenLists calls)
  replaced : counters.scratchReallocations = .ofNat (idleWaits calls)
  waited : waits calls = takenLists calls + idleWaits calls
  landed : inFlight calls = false

namespace Counters.TellsCalls

variable {counters : Counters} {calls : List Call}

theorem idle (tells : counters.TellsCalls calls) {call : Call}
    (idle : call.isExecute = false) (unwaiting : call.isSync = false) :
    counters.TellsCalls (calls ++ [call]) where
  draws := by simpa [Call.draws_of_idle idle] using tells.draws
  lists := by simpa [Call.executed?_of_idle idle] using tells.lists
  replaced := by simpa [unwaiting] using tells.replaced
  waited := by
    simpa [unwaiting, Call.executed?_of_idle idle] using tells.waited
  landed := by
    rw [inFlight_concat, tells.landed]
    exact Call.inFlightAfter_of_idle idle

theorem drained (tells : counters.TellsCalls calls) :
    counters.countReallocation.TellsCalls (calls ++ [.sync]) where
  draws := by
    simpa [Call.draws, Counters.countReallocation] using tells.draws
  lists := by
    simpa [Call.executed?, Counters.countReallocation] using tells.lists
  replaced := by
    simp [Counters.countReallocation, tells.replaced, tells.landed,
      Call.isSync, UInt64.ofNat_add]
  waited := by
    have before := tells.waited
    rw [waits_concat, takenLists_concat, idleWaits_concat, tells.landed]
    change waits calls + 1 = takenLists calls + 0 + (idleWaits calls + 1)
    omega
  landed := inFlight_concat calls .sync

theorem submitted (tells : counters.TellsCalls calls) (list : CommandList) :
    ((counters.countDraws
      (UInt64.ofNat list.drawCount)).countSubmission).TellsCalls
      (calls ++ [.execute list (.ok ()), .sync]) where
  draws := by
    rw [List.append_cons, handedDraws_concat, handedDraws_concat]
    simp [Call.draws, Counters.countSubmission, Counters.countDraws,
      tells.draws, CommandList.drawCount_eq, UInt64.ofNat_add]
  lists := by
    rw [List.append_cons, takenLists_concat, takenLists_concat]
    simp [Call.executed?, Counters.countSubmission, Counters.countDraws,
      tells.lists, UInt64.ofNat_add]
  replaced := by
    rw [List.append_cons, idleWaits_concat, idleWaits_concat, inFlight_concat]
    simp [Call.isSync, Call.inFlightAfter, Counters.countSubmission,
      Counters.countDraws, tells.replaced]
  waited := by
    have before := tells.waited
    rw [List.append_cons, waits_concat, waits_concat, takenLists_concat,
      takenLists_concat, idleWaits_concat, idleWaits_concat, inFlight_concat]
    change waits calls + 0 + 1 =
      takenLists calls + 1 + 0 + (idleWaits calls + 0 + 0)
    omega
  landed := by
    rw [List.append_cons]
    exact inFlight_concat _ .sync

theorem rejected (tells : counters.TellsCalls calls) (list : CommandList)
    (cause : DeviceFailure) :
    (counters.countDraws (UInt64.ofNat list.drawCount)).TellsCalls
      (calls ++ [.execute list (.error cause)]) where
  draws := by
    simp [Call.draws, Counters.countDraws, tells.draws,
      CommandList.drawCount_eq, UInt64.ofNat_add]
  lists := by
    simp [Call.executed?, Counters.countDraws, tells.lists]
  replaced := by
    simp [Call.isSync, Counters.countDraws, tells.replaced]
  waited := by simpa [Call.isSync, Call.executed?] using tells.waited
  landed := by
    rw [inFlight_concat, tells.landed]
    rfl

end Counters.TellsCalls

theorem Step.tellsCalls {now next : Standing} (step : Step now next)
    (tells : now.counters.TellsCalls now.history) :
    next.counters.TellsCalls next.history := by
  cases step with
  | noted call quiet =>
      exact tells.idle (Call.isExecute_of_quiet quiet)
        (Call.isSync_of_quiet quiet)
  | made call resource made empty =>
      exact tells.idle (Call.isExecute_of_made made) (Call.isSync_of_made made)
  | freed call resource freed mem =>
      exact tells.idle (Call.isExecute_of_freed freed)
        (Call.isSync_of_freed freed)
  | drained => exact tells.drained
  | dismantled scratch present => exact tells
  | assembled scratch others empty unused parts last => exact tells
  | denied => exact { tells with }
  | submitted scratch recording after present recorded =>
      exact tells.submitted recording.list
  | rejected scratch recording after cause present recorded =>
      exact tells.rejected recording.list cause
  | tallied count counted =>
      simp only [List.mem_cons, List.not_mem_nil, or_false] at counted
      rcases counted with rfl | rfl | rfl <;> exact { tells with }

theorem Engine.tellsCalls_run {σ : Type} [Device σ] (device : σ)
    (settings : Settings) (operations : List Operation) :
    let engine := (new device settings).run operations
    engine.counters.TellsCalls engine.calls := by
  rcases run_preserves
    (fun standing => standing.counters.TellsCalls standing.history)
    (fun _ _ step => step.tellsCalls) device settings operations
    ⟨rfl, rfl, rfl, rfl, rfl⟩ with ⟨drawn, tells⟩
  exact tells

end MeshCapture
