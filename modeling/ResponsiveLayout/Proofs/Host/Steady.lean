import ResponsiveLayout.Host.Recording
import ResponsiveLayout.Proofs.Host.Transcript

/-! Hosts whose answers depend on the kind of the call and on the widget alone. What is written down of a
computation on such a host is told by the calls, since the host adds nothing of its own. -/
namespace ResponsiveLayout

variable {α σ β γ ε : Type}

structure Answers (α : Type) where
  measure : Widget → Except HostError (Size α)
  place : Widget → Except HostError Unit
  restack : Widget → Restack → Except HostError Unit

namespace Answers

def answer (a : Answers α) : Call α → CallAnswer α
  | .measure w => .measured (a.measure w)
  | .place w _ => .carriedOut (a.place w)
  | .restack w m => .carriedOut (a.restack w m)
  | .configureGrid _ => .carriedOut (.ok ())

def exchange (a : Answers α) (c : Call α) : Exchange α := ⟨c, a.answer c⟩

end Answers

/-- A host that gives certain answers from a state of a given kind on, and whose states stay of that
kind. -/
structure Host.Steady (h : Host α σ) (a : Answers α) (P : σ → Prop) : Prop where
  answer : ∀ c s, P s → (h.call c s).1 = a.answer c
  kept : ∀ c s, P s → P (h.call c s).2

/-- A transcript that goes on with calls which were given these answers. -/
structure Answers.Continues (a : Answers α) (P : σ → Prop) (log : List (Exchange α))
    (x : σ × List (Exchange α)) : Prop where
  kept : P x.1
  foretold : ∃ calls : List (Call α), x.2 = log ++ calls.map a.exchange

namespace Host.Steady

variable {h : Host α σ} {a : Answers α} {P : σ → Prop} {log : List (Exchange α)}

theorem writing_continues (hh : h.Steady a P) (c : Call α) {f : β → CallAnswer α} {m : StateM σ β}
    (hm : f <$> m = h.call c) {x : σ × List (Exchange α)} (hx : a.Continues P log x) :
    a.Continues P log (writing c f m x).2 where
  kept := by
    have hstate : (m x.1).2 = (h.call c x.1).2 := congrArg (fun m => (m x.1).2) hm
    change P (m x.1).2
    rw [hstate]
    exact hh.kept c x.1 hx.kept
  foretold := by
    obtain ⟨calls, hlog⟩ := hx.foretold
    have hanswer : f (m x.1).1 = a.answer c := by
      rw [← hh.answer c x.1 hx.kept]
      exact congrArg (fun m => (m x.1).1) hm
    refine ⟨calls ++ [c], ?_⟩
    change x.2 ++ [⟨c, f (m x.1).1⟩] = _
    rw [hlog, hanswer, List.map_append, List.append_assoc]
    rfl

/-- Whatever is computed on a steady host goes on with foretold answers. -/
theorem transcribed_lockstep (hh : h.Steady a P) (log : List (Exchange α)) :
    h.transcribed.Lockstep (fun x y => x = y ∧ a.Continues P log x) h.transcribed where
  measure w := by
    rintro x _ ⟨rfl, hx⟩
    exact ⟨rfl, rfl, hh.writing_continues (.measure w) rfl hx⟩
  place w p := by
    rintro x _ ⟨rfl, hx⟩
    exact ⟨rfl, rfl, hh.writing_continues (.place w p) rfl hx⟩
  restack w m := by
    rintro x _ ⟨rfl, hx⟩
    exact ⟨rfl, rfl, hh.writing_continues (.restack w m) rfl hx⟩
  configureGrid t := by
    rintro x _ ⟨rfl, hx⟩
    exact ⟨rfl, rfl, hh.writing_continues (.configureGrid t) rfl hx⟩

end Host.Steady

namespace Answers.Continues

variable {a : Answers α} {P : σ → Prop} {s : σ} {log es : List (Exchange α)}

theorem of_lockstep (hs : P s) {m : StateM (σ × List (Exchange α)) β}
    (hm : Lockstep (fun x y => x = y ∧ a.Continues P log x) m m) :
    a.Continues P log (m (s, log)).2 :=
  (hm (s, log) (s, log) ⟨rfl, hs, [], (List.append_nil log).symm⟩).2.2

/-- If the transcript goes on with certain exchanges, these were given the foretold answers. -/
theorem answer_eq (hx : a.Continues P log (s, log ++ es)) :
    ∀ e ∈ es, e.answer = a.answer e.call := by
  obtain ⟨calls, hlog⟩ := hx.foretold
  rw [List.append_cancel_left hlog]
  intro e he
  obtain ⟨c, -, rfl⟩ := List.mem_map.mp he
  rfl

theorem exchange_eq (hx : a.Continues P log (s, log ++ es)) :
    es = (es.map Exchange.call).map a.exchange := by
  rw [List.map_map]
  refine (List.map_id es).symm.trans (List.map_congr_left fun e he => ?_)
  change e = ⟨e.call, a.answer e.call⟩
  rw [← hx.answer_eq e he]

end Answers.Continues

namespace Recorder

variable [Scalar α]

def answers (r : Recorder α) : Answers α where
  measure := r.measure
  place w := if r.isDestroyed w then .error (.destroyed w) else .ok ()
  restack w _ := if r.isDestroyed w then .error (.destroyed w) else .ok ()

/-- A recorder is steady while no size is set and nothing is destroyed. -/
theorem host_steady (r : Recorder α) : (host : Host α (Recorder α)).Steady r.answers
    fun r' => r'.sizes = r.sizes ∧ r'.destroyed = r.destroyed where
  answer c r' hr := by
    obtain ⟨hsizes, hdestroyed⟩ := hr
    have halive (w : Widget) : r'.isDestroyed w = r.isDestroyed w := by
      rw [isDestroyed, isDestroyed, hdestroyed]
    have hifAlive (w : Widget) (f : Recorder α → Recorder α) :
        (ifAlive w f r').1 = if r.isDestroyed w then .error (.destroyed w) else .ok () := by
      rw [ifAlive, halive]
      split <;> rfl
    cases c with
    | measure w =>
      have hmeasure : r'.measure w = r.measure w := by
        rw [measure, measure, halive, hsizes]
      exact congrArg CallAnswer.measured hmeasure
    | place w p => exact congrArg CallAnswer.carriedOut (hifAlive w (place w p))
    | restack w m => exact congrArg CallAnswer.carriedOut (hifAlive w (restack w m))
    | configureGrid t => rfl
  kept c r' hr := by
    have hifAlive (w : Widget) {f : Recorder α → Recorder α} (hf : (f r').sizes = r'.sizes)
        (hf' : (f r').destroyed = r'.destroyed) :
        (ifAlive w f r').2.sizes = r.sizes ∧ (ifAlive w f r').2.destroyed = r.destroyed := by
      rw [ifAlive]
      split
      · exact hr
      · exact ⟨hf.trans hr.1, hf'.trans hr.2⟩
    cases c with
    | measure w => exact hr
    | place w p => exact hifAlive w rfl rfl
    | restack w m => exact hifAlive w rfl rfl
    | configureGrid t => exact hr

end Recorder

end ResponsiveLayout
