import Mathlib.Tactic

/-!
Attempts that write into one buffer. After a successful attempt the whole buffer is handed over and it
is empty again. A failed one ends its batch and leaves in the buffer what it wrote.
-/
namespace Attempts
variable {I E B : Type}

/-- What an attempt writes, and how it ends. -/
structure Attempt (E B : Type) where
  bytes : List B
  result : Except E Unit

def Attempt.succeeds (self : Attempt E B) : Bool := self.result.isOk

/-- The attempts of a batch, up to the first that fails: how they end, what is left in the buffer, and
what is handed over. -/
def drain (attempt : I → Attempt E B) : List I → List B → Except E Unit × List B × List (I × List B)
  | [], buffer => (.ok (),buffer,[])
  | item :: items, buffer =>
    match (attempt item).result with
    | .error error => (.error error,buffer ++ (attempt item).bytes,[])
    | .ok () =>
      let rest := drain attempt items []
      (rest.1,rest.2.1,(item,buffer ++ (attempt item).bytes) :: rest.2.2)

/-- Each successful attempt with what it wrote itself. -/
def handedOver (attempt : I → Attempt E B) (items : List I) : List (I × List B) :=
  (items.filter fun item => (attempt item).succeeds).map fun item => (item,(attempt item).bytes)

/-- After a failed attempt there are only failed ones. -/
def FailsLast (attempt : I → Attempt E B) (items : List I) : Prop :=
  items.Pairwise fun earlier later => (attempt later).succeeds = true → (attempt earlier).succeeds = true

/-- The attempts of all batches so far, also those after a failed one, and the buffer. -/
structure Log (I B : Type) where
  items : List I
  handed : List (I × List B)
  buffer : List B

def Log.step (attempt : I → Attempt E B) (self : Log I B) (batch : List I) : Log I B :=
  ⟨self.items ++ batch,self.handed ++ (drain attempt batch self.buffer).2.2,(drain attempt batch self.buffer).2.1⟩

structure Sound (attempt : I → Attempt E B) (log : Log I B) : Prop where
  few : log.handed.length ≤ (handedOver attempt log.items).length
  exact : log.handed = handedOver attempt log.items ↔ FailsLast attempt log.items
  empty : log.handed = handedOver attempt log.items →
    (log.buffer = [] ↔ ∀ item ∈ log.items, (attempt item).succeeds = true)

variable {attempt : I → Attempt E B}

theorem handedOver_append (items batch : List I) :
    handedOver attempt (items ++ batch) = handedOver attempt items ++ handedOver attempt batch := by
  simp [handedOver]

theorem drain_error {item : I} (fails : (attempt item).succeeds = false) (items : List I) (buffer : List B) :
    (drain attempt (item :: items) buffer).2 = (buffer ++ (attempt item).bytes,[]) := by
  rw [drain]
  cases result : (attempt item).result with
  | error error => rfl
  | ok => simp [Attempt.succeeds,result,Except.isOk,Except.toBool] at fails

theorem drain_ok {item : I} (succeeds : (attempt item).succeeds = true) (items : List I) (buffer : List B) :
    (drain attempt (item :: items) buffer).2 = ((drain attempt items []).2.1,
      (item,buffer ++ (attempt item).bytes) :: (drain attempt items []).2.2) := by
  rw [drain]
  cases result : (attempt item).result with
  | error error => simp [Attempt.succeeds,result,Except.isOk,Except.toBool] at succeeds
  | ok => rfl

theorem drain_few (items : List I) (buffer : List B) :
    (drain attempt items buffer).2.2.length ≤ (handedOver attempt items).length := by
  induction items generalizing buffer with
  | nil => rfl
  | cons item items ih =>
    cases succeeds : (attempt item).succeeds with
    | false => simp [drain_error succeeds]
    | true =>
      rw [drain_ok succeeds]
      simpa [handedOver,succeeds] using ih []

theorem failsLast_of_fail {items : List I} (fail : ∀ item ∈ items, (attempt item).succeeds = false) :
    FailsLast attempt items :=
  List.Pairwise.imp_of_mem (fun _ mem _ ok => by simp [fail _ mem] at ok) (List.pairwise_of_forall fun _ _ => trivial)

theorem failsLast_cons_error {item : I} (fails : (attempt item).succeeds = false) (items : List I) :
    FailsLast attempt (item :: items) ↔ ∀ other ∈ items, (attempt other).succeeds = false := by
  rw [FailsLast,List.pairwise_cons]
  constructor
  · rintro ⟨first,-⟩ other mem
    simpa [fails] using first other mem
  · exact fun fail => ⟨fun other mem ok => by simp [fail other mem] at ok,failsLast_of_fail fail⟩

theorem failsLast_cons_ok {item : I} (succeeds : (attempt item).succeeds = true) (items : List I) :
    FailsLast attempt (item :: items) ↔ FailsLast attempt items := by
  rw [FailsLast,List.pairwise_cons]
  exact and_iff_right fun _ _ _ => succeeds

theorem failsLast_append (items batch : List I) :
    FailsLast attempt (items ++ batch) ↔ FailsLast attempt items ∧ FailsLast attempt batch ∧
      ∀ earlier ∈ items, ∀ later ∈ batch, (attempt later).succeeds = true → (attempt earlier).succeeds = true :=
  List.pairwise_append

/-- A batch is handed over as it should be when nothing in it succeeds, or when the buffer was empty
and the failed attempts are its last ones. -/
theorem drain_exact (items : List I) (buffer : List B) :
    (drain attempt items buffer).2.2 = handedOver attempt items ↔
      (∀ item ∈ items, (attempt item).succeeds = false) ∨ buffer = [] ∧ FailsLast attempt items := by
  induction items generalizing buffer with
  | nil => simp [drain,handedOver]
  | cons item items ih =>
    cases succeeds : (attempt item).succeeds with
    | false =>
      rw [drain_error succeeds,failsLast_cons_error succeeds]
      simp only [handedOver,List.filter_cons,succeeds,Bool.false_eq_true,if_false,List.forall_mem_cons,true_and]
      rw [eq_comm,List.map_eq_nil_iff,List.filter_eq_nil_iff]
      simp only [Bool.not_eq_true]
      exact ⟨.inl,fun cases => cases.elim id And.right⟩
    | true =>
      have own : handedOver attempt (item :: items) = (item,(attempt item).bytes) :: handedOver attempt items := by
        simp [handedOver,succeeds]
      have rest : (drain attempt items []).2.2 = handedOver attempt items ↔ FailsLast attempt items :=
        (ih []).trans ⟨fun cases => cases.elim failsLast_of_fail And.right,fun failsLast => .inr ⟨rfl,failsLast⟩⟩
      rw [drain_ok succeeds,own,failsLast_cons_ok succeeds,List.cons.injEq,Prod.mk.injEq,rest]
      simp [succeeds]

/-- The buffer stays empty exactly when nothing fails. -/
theorem drain_buffer (writes : ∀ item, (attempt item).succeeds = false → (attempt item).bytes ≠ []) (items : List I)
    (buffer : List B) (handed : (drain attempt items buffer).2.2 = handedOver attempt items) :
    (drain attempt items buffer).2.1 = [] ↔ buffer = [] ∧ ∀ item ∈ items, (attempt item).succeeds = true := by
  induction items generalizing buffer with
  | nil => simp [drain]
  | cons item items ih =>
    cases succeeds : (attempt item).succeeds with
    | false =>
      rw [drain_error succeeds]
      simp [succeeds,writes item succeeds]
    | true =>
      rw [drain_ok succeeds] at handed ⊢
      have own : handedOver attempt (item :: items) = (item,(attempt item).bytes) :: handedOver attempt items := by
        simp [handedOver,succeeds]
      rw [own,List.cons.injEq,Prod.mk.injEq] at handed
      obtain ⟨⟨-,bytes⟩,rest⟩ := handed
      have empty : buffer = [] := List.append_left_eq_self.mp bytes
      rw [ih [] rest]
      simp [empty,succeeds]

theorem Sound.start : Sound attempt ⟨[],[],[]⟩ where
  few := le_rfl
  exact := by simp [handedOver,FailsLast]
  empty _ := by simp

theorem Sound.step (writes : ∀ item, (attempt item).succeeds = false → (attempt item).bytes ≠ []) {log : Log I B}
    (sound : Sound attempt log) (batch : List I) : Sound attempt (log.step attempt batch) := by
  have few : (drain attempt batch log.buffer).2.2.length ≤ (handedOver attempt batch).length :=
    drain_few batch log.buffer
  -- neither of the two lists can catch up with the other
  have split : (log.step attempt batch).handed = handedOver attempt (log.step attempt batch).items ↔
      log.handed = handedOver attempt log.items ∧ (drain attempt batch log.buffer).2.2 = handedOver attempt batch := by
    rw [Log.step,handedOver_append]
    constructor
    · intro same
      have lengths := congrArg List.length same
      simp only [List.length_append] at lengths
      exact List.append_inj same (by have := sound.few; omega)
    · rintro ⟨before,now⟩
      rw [before,now]
  refine ⟨?_,?_,fun handed => ?_⟩
  · rw [Log.step,handedOver_append,List.length_append,List.length_append]
    exact Nat.add_le_add sound.few few
  · rw [split,drain_exact]
    change _ ↔ FailsLast attempt (log.items ++ batch)
    rw [failsLast_append,← sound.exact]
    refine and_congr_right fun handed => ?_
    rw [sound.empty handed]
    constructor
    · rintro (fail | ⟨succeed,failsLast⟩)
      · exact ⟨failsLast_of_fail fail,fun _ _ later mem ok => by simp [fail later mem] at ok⟩
      · exact ⟨failsLast,fun earlier mem _ _ _ => succeed earlier mem⟩
    · rintro ⟨failsLast,across⟩
      by_cases some : ∃ later ∈ batch, (attempt later).succeeds = true
      · obtain ⟨later,mem,succeeds⟩ := some
        exact .inr ⟨fun earlier mem' => across earlier mem' later mem succeeds,failsLast⟩
      · exact .inl fun later mem => Bool.eq_false_iff.mpr fun succeeds => some ⟨later,mem,succeeds⟩
  · obtain ⟨before,now⟩ := split.mp handed
    change (drain attempt batch log.buffer).2.1 = [] ↔ ∀ item ∈ log.items ++ batch, _
    rw [drain_buffer writes batch log.buffer now,sound.empty before,List.forall_mem_append]

end Attempts
