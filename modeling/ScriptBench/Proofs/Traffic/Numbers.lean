import ScriptBench.Proofs.Traffic.Mail

/-! The numbers of the requests that get through to a worker. They count from one on, and what is no whole request stands
at the end. -/
namespace ScriptBench

open Text

namespace Traffic

/-- Whole requests with the numbers from one on. -/
def Numbered (sent : List Delivery) : Prop :=
  ∃ requests : List (Nat × Request), sent = requests.map (fun p => (Letter.request p.1 p.2).whole) ∧
    requests.map (fun p => p.2.id) = List.range' 1 requests.length

/-- What may stand behind so many requests: a shutdown, a piece of one line more, or nothing. -/
inductive Ends (count : Nat) : List Delivery → Prop where
  | nothing : Ends count []
  | shutdown : Ends count [Letter.shutdown.whole]
  | piece (d : Delivery) (next : ∀ c r, d.letter = .request c r → r.id = count + 1) (some : d.bytes ≠ [])
    (piece : d.bytes <+: encodeUtf8 d.letter.line) : Ends count [d]

/-- Whole requests with the numbers from one on, and behind them a shutdown, a piece of one line more, or nothing. -/
def InOrder (sent : List Delivery) : Prop :=
  ∃ front last, sent = front ++ last ∧ Numbered front ∧ Ends front.length last

variable {t t' : Traffic} {past : List Event} {c n : Nat} {call : Call} {x : Event} {sent : List Delivery}

theorem numbered_nil : Numbered [] := ⟨[], rfl, rfl⟩

theorem Numbered.inOrder (h : Numbered sent) : InOrder sent := ⟨sent, [], (List.append_nil sent).symm, h, .nothing⟩

theorem Numbered.concat {r : Request} (h : Numbered sent) (hid : r.id = sent.length + 1) (c : Nat) :
    Numbered (sent ++ [(Letter.request c r).whole]) := by
  obtain ⟨requests, rfl, hids⟩ := h
  rw [List.length_map] at hid
  refine ⟨requests ++ [(c, r)], by simp, ?_⟩
  rw [List.map_append, hids, List.length_append, List.length_singleton, List.range'_1_concat, List.map_singleton, hid,
    Nat.add_comm 1]

/-- Whatever gets through of the next line, the order stays. -/
theorem Numbered.reaching {l : Letter} (h : Numbered sent) (hnext : ∀ c r, l = .request c r → r.id = sent.length + 1)
    (p : Process) : InOrder (sent ++ l.reaching p) := by
  cases hreaching : l.reaching p with
  | nil =>
    rw [List.append_nil]
    exact h.inOrder
  | cons d more =>
    have hmem : d ∈ l.reaching p := by
      rw [hreaching]
      exact List.mem_cons_self
    obtain ⟨hletter, honly, _, ⟨_, rfl⟩ | ⟨_, hsome, hpiece⟩⟩ := Letter.eq_of_mem_reaching hmem
    · rw [← hreaching, honly]
      cases l with
      | request c r => exact (h.concat (hnext c r rfl) c).inOrder
      | shutdown => exact ⟨sent, _, rfl, h, .shutdown⟩
    · rw [← hreaching, honly]
      rw [← hletter] at hnext hpiece
      exact ⟨sent, _, rfl, h, .piece d hnext hsome hpiece⟩

/-! Numbers that are taken -/

/-- The number that was taken for a request that is not sent yet. -/
def Stage.drawn? : Stage → Option Nat
  | .begun id | .armed id => some id
  | _ => none

/-- The number that the call in the session of a worker has taken. -/
def drawn? (t : Traffic) (n : Nat) : Option Nat := do
  let c ← (t.seats n).holder?
  let call ← t.calls[c]?
  call.stage.drawn?

/-- How the numbers of a worker go with what got through to it. -/
def Counts (sent : List Delivery) (nextId : Nat) : Option Nat → Prop
  | none => nextId = sent.length + 1
  | some id => id = sent.length + 1 ∧ nextId = sent.length + 2

/-- What gets through to a worker is in order. As long as its input is open these are requests alone, and the numbers go
with them. -/
structure Posted (t : Traffic) (n : Nat) (sent : List Delivery) : Prop where
  inOrder : InOrder sent
  numbered : t.isShut n = false → Numbered sent
  counts : t.isShut n = false → Counts sent (t.seats n).worker.nextId (t.drawn? n)
  drawn : ∀ d ∈ sent, ∀ c r, d.letter = .request c r → r.id < (t.seats n).worker.nextId

theorem drawn?_congr (hholder : (t'.seats n).holder? = (t.seats n).holder?)
    (hcalls : ∀ c, (t.seats n).holder? = some c → t'.calls[c]? = t.calls[c]?) : t'.drawn? n = t.drawn? n := by
  unfold drawn?
  rw [hholder]
  cases hc : (t.seats n).holder? with
  | none => rfl
  | some c =>
    change t'.calls[c]?.bind _ = t.calls[c]?.bind _
    rw [hcalls c hc]

theorem drawn?_of_holder (hholder : (t.seats n).holder? = if call.stage.inSession then some c else none)
    (hhas : t.Has c n call) : t.drawn? n = call.stage.drawn? := by
  unfold drawn?
  rw [hholder]
  cases hin : call.stage.inSession with
  | true =>
    change t.calls[c]?.bind _ = _
    rw [hhas.get]
    rfl
  | false =>
    cases hstage : call.stage with
    | begun id | armed id =>
      rw [hstage] at hin
      cases hin
    | _ => rfl

/-- A step that writes nothing and takes no number. -/
theorem Posted.same (h : t.Posted n sent) (hopens : t'.isShut n = false → t.isShut n = false)
    (hletter : t.letter? n x = none) (hnext : (t'.seats n).worker.nextId = (t.seats n).worker.nextId)
    (hdrawn : t'.drawn? n = t.drawn? n) : t'.Posted n (sent ++ t.deliveries n x) := by
  rw [deliveries_of_none hletter, List.append_nil]
  refine ⟨h.inOrder, fun hopen => h.numbered (hopens hopen), fun hopen => ?_, ?_⟩
  · rw [hnext, hdrawn]
    exact h.counts (hopens hopen)
  · rw [hnext]
    exact h.drawn

/-- A step that leaves the seat of a worker and the call in its session alone. -/
theorem Posted.elsewhere (h : t.Posted n sent) (hletter : t.letter? n x = none) (hseat : t'.seats n = t.seats n)
    (hcalls : ∀ c, (t.seats n).holder? = some c → t'.calls[c]? = t.calls[c]?) :
    t'.Posted n (sent ++ t.deliveries n x) := by
  refine h.same (fun hopen => ?_) hletter (congrArg (·.worker.nextId) hseat)
    (drawn?_congr (congrArg Seat.holder? hseat) hcalls)
  unfold isShut at hopen ⊢
  rwa [hseat] at hopen

theorem posted_opened {workers : Nat → Worker} (hnext : (workers n).nextId = 1) : (opened workers).Posted n [] :=
  ⟨numbered_nil.inOrder, fun _ => numbered_nil, fun _ => hnext, nofun⟩

/-- A line is written to a worker, and gets through or not. -/
theorem Posted.written {l : Letter} (h : t.Posted n sent)
    (hnext : t.isShut n = false → ∀ c r, l = .request c r →
      r.id = sent.length + 1 ∧ r.id < (t.seats n).worker.nextId) :
    InOrder (sent ++ l.reaching (t.seats n).worker.process) ∧
      ∀ d ∈ sent ++ l.reaching (t.seats n).worker.process, ∀ c r, d.letter = .request c r →
        r.id < (t.seats n).worker.nextId := by
  cases hshut : t.isShut n with
  | true =>
    rw [Letter.reaching_of_isShut hshut, List.append_nil]
    exact ⟨h.inOrder, h.drawn⟩
  | false =>
    refine ⟨(h.numbered hshut).reaching (fun c r hl => (hnext hshut c r hl).1) _, fun d hd c r hletter => ?_⟩
    rcases List.mem_append.1 hd with hold | hnew
    · exact h.drawn d hold c r hletter
    · obtain ⟨rfl, _⟩ := Letter.eq_of_mem_reaching hnew
      exact (hnext hshut c r hletter).2

/-- As long as the input is open, the number that was taken is the one behind those that got through. -/
theorem Posted.taken {id : Nat} (h : t.Posted n sent) (hdrawn : t.drawn? n = some id) (hopen : t.isShut n = false) :
    id = sent.length + 1 ∧ (t.seats n).worker.nextId = sent.length + 2 := by
  have hcounts := h.counts hopen
  rwa [hdrawn] at hcounts

/-- A call writes the request whose number it has taken. -/
theorem Posted.sends {id : Nat} (h : t.Posted n sent) (hhas : t.Has c n call) (hstage : call.stage = .armed id)
    (hdrawn : t.drawn? n = some id) :
    InOrder (sent ++ t.deliveries n (.move c .send)) ∧
      ∀ d ∈ sent ++ t.deliveries n (.move c .send), ∀ c r, d.letter = .request c r →
        r.id < (t.seats n).worker.nextId := by
  rw [deliveries_of_some (letter?_send hhas hstage)]
  refine h.written fun hopen c' r hl => ?_
  cases hl
  obtain ⟨hid, hnext⟩ := h.taken hdrawn hopen
  exact ⟨hid, by rw [hnext]; exact Nat.lt_succ_of_le (Nat.le_of_eq hid)⟩

theorem Posted.moved {m : Move} {call' : Call} {seat : Seat} (h : t.Posted n sent) (hhas : t.Has c n call)
    (hmoved : Call.Moved c call (t.seats n) m call' seat) (hopens : t'.isShut n = false → t.isShut n = false)
    (hseat : t'.seats n = seat) (hbefore : t.drawn? n = call.stage.drawn?)
    (hbehind : t'.drawn? n = call'.stage.drawn?) :
    t'.Posted n (sent ++ t.deliveries n (.move c m)) := by
  have hsame : m ≠ .send → seat.worker.nextId = (t.seats n).worker.nextId → call'.stage.drawn? = call.stage.drawn? →
      t'.Posted n (sent ++ t.deliveries n (.move c m)) := by
    intro hm hnext hdrawn
    refine h.same hopens (letter?_move_of_ne hm) ?_ ?_
    · rw [hseat, hnext]
    · rw [hbehind, hdrawn, hbefore]
  cases hmoved with
  | begin hstage =>
    rw [deliveries_of_none (letter?_move_of_ne (by decide)), List.append_nil]
    refine ⟨h.inOrder, fun hopen => h.numbered (hopens hopen), fun hopen => ?_, fun d hd c r hletter => ?_⟩
    · have hcounts := h.counts (hopens hopen)
      rw [hbefore, hstage] at hcounts
      rw [hbehind, hseat]
      exact ⟨hcounts, congrArg (· + 1) hcounts⟩
    · rw [hseat]
      exact Nat.lt_succ_of_lt (h.drawn d hd c r hletter)
  | sent id w hstage hsent =>
    obtain ⟨haccepts, rfl⟩ := eq_of_sent hsent
    have hopen : t.isShut n = false := Process.not_isShut_of_accepts haccepts
    have htaken : t.drawn? n = some id := by rw [hbefore, hstage]; rfl
    obtain ⟨hid, hnext⟩ := h.taken htaken hopen
    obtain ⟨hinOrder, hdrawn⟩ := h.sends hhas hstage htaken
    have hdeliveries : t.deliveries n (.move c .send) = [(Letter.request c (call.request id)).whole] := by
      rw [deliveries_of_some (letter?_send hhas hstage), Letter.reaching_of_accepts haccepts]
    refine ⟨hinOrder, fun _ => ?_, fun _ => ?_, ?_⟩
    · rw [hdeliveries]
      exact (h.numbered hopen).concat hid c
    · rw [hbehind, hseat, hdeliveries]
      change (t.seats n).worker.nextId = _
      rw [hnext, List.length_append, List.length_singleton]
    · rw [hseat]
      exact hdrawn
  | unsent id e w hstage hunsent =>
    obtain ⟨haccepts, _, rfl⟩ := eq_of_unsent hunsent
    have hshut : t'.isShut n ≠ false := by
      unfold isShut
      rw [hseat]
      exact Bool.ne_false_iff.2 (Process.isShut_serve haccepts _)
    obtain ⟨hinOrder, hdrawn⟩ := h.sends hhas hstage (by rw [hbefore, hstage]; rfl)
    refine ⟨hinOrder, fun hopen => absurd hopen hshut, fun hopen => absurd hopen hshut, ?_⟩
    rw [hseat]
    exact hdrawn
  | heard id r w hstage hheard =>
    obtain ⟨unread, rfl⟩ := exists_unread_of_listen hheard
    exact hsame (by decide) rfl (by rw [hstage]; rfl)
  | silent id w hstage hsilent =>
    obtain ⟨unread, rfl⟩ := exists_unread_of_listen hsilent
    exact hsame (by decide) rfl rfl
  | mark | strike | dismiss => exact hsame (by decide) rfl rfl
  | enter hstage | arm id hstage | stop r hstage | settle r hstage | judge r hstage | leave r b hstage =>
    exact hsame (by decide) rfl (by rw [hstage]; rfl)

theorem Posted.move {m : Move} (h : t.Posted n sent) (horderly : t.Orderly past) (ht : t.move c m = some t')
    (hopens : t'.isShut n = false → t.isShut n = false) : t'.Posted n (sent ++ t.deliveries n (.move c m)) := by
  obtain ⟨old, n', call, seat, hget, hkeeps, hmove, rfl⟩ := move_eq_some_iff.1 ht
  have hhas : t.Has c n' old := ⟨hget, hkeeps⟩
  have hmoved := Call.moved_of_move hmove
  by_cases hn : n = n'
  · subst hn
    have hholds := fun hin => (horderly.holder_iff n c).2 ⟨old, hhas, hin⟩
    obtain ⟨hfree, hholder⟩ := hmoved.holder? (horderly.fits c n old hhas) hholds
    have hholder' : (t.seats n).holder? = if old.stage.inSession then some c else none := by
      split
      · rename_i hin
        exact hholds hin
      · rename_i hout
        refine hfree.resolve_right fun hself => ?_
        obtain ⟨call', hcall', hin⟩ := (horderly.holder_iff n c).1 hself
        rw [(hcall'.unique hhas).2] at hin
        exact hout hin
    refine h.moved hhas hmoved hopens (seats_setSeat_self t n seat) (drawn?_of_holder hholder' hhas)
      (drawn?_of_holder (c := c) ?_ ⟨List.getElem?_set_self hhas.lt, hmoved.worker?.trans hkeeps⟩)
    exact (congrArg Seat.holder? (seats_setSeat_self t n seat)).trans hholder
  · refine h.elsewhere (letter?_move_elsewhere hhas hn) (seats_setSeat_of_ne hn t seat) fun c' hc' => ?_
    obtain ⟨call', hcall', _⟩ := (horderly.holder_iff n c').1 hc'
    refine List.getElem?_set_ne ?_
    rintro rfl
    exact hn (hcall'.unique hhas).1

theorem Posted.step (h : t.Posted n sent) (horderly : t.Orderly past) (ht : t.step x = some t')
    (hopens : t'.isShut n = false → t.isShut n = false) : t'.Posted n (sent ++ t.deliveries n x) := by
  cases x with
  | lobby y =>
    obtain ⟨_, _, hseats, hcalls⟩ := lobbyStep_eq_some ht
    exact h.elsewhere rfl (congrFun hseats n) fun c _ => by rw [hcalls]
  | call job =>
    cases ht
    refine h.elsewhere rfl rfl fun c hc => ?_
    obtain ⟨call, hcall, _⟩ := (horderly.holder_iff n c).1 hc
    exact List.getElem?_append_left hcall.lt
  | move c m => exact h.move horderly ht hopens
  | report c =>
    obtain ⟨old, n', r, b, hget, hkeeps, hstage, rfl⟩ := report_eq_some_iff.1 ht
    refine h.elsewhere rfl rfl fun c' hc' => ?_
    obtain ⟨call, hcall, hin⟩ := (horderly.holder_iff n c').1 hc'
    refine List.getElem?_set_ne ?_
    rintro rfl
    rw [(hcall.unique ⟨hget, hkeeps⟩).2, hstage] at hin
    cases hin
  | close m =>
    obtain ⟨_, hfree, rfl⟩ := close_eq_some_iff.1 ht
    by_cases hn : n = m
    · subst hn
      have hseat := seats_setSeat_self t n ⟨(t.seats n).worker.shutdown, none⟩
      obtain ⟨hinOrder, hdrawn⟩ := h.written (l := .shutdown) fun _ _ _ hl => nomatch hl
      have hshut : ((t.setSeat n ⟨(t.seats n).worker.shutdown, none⟩).seats n).worker.process.isShut ≠ false := by
        rw [hseat]
        exact Bool.ne_false_iff.2 (Worker.isShut_shutdown _)
      rw [deliveries_of_some (letter?_close t n)]
      refine ⟨hinOrder, fun hopen => absurd hopen hshut, fun hopen => absurd hopen hshut, ?_⟩
      change ∀ d ∈ _, ∀ (c : Nat) (r : Request), _ → r.id < ((t.setSeat n _).seats n).worker.nextId
      rw [hseat, Worker.nextId_shutdown]
      exact hdrawn
    · exact h.elsewhere (letter?_close_of_ne (Ne.symm hn)) (seats_setSeat_of_ne hn t _) fun _ _ => rfl
  | plays m p =>
    cases ht
    by_cases hn : n = m
    · subst hn
      have hseat := seats_setSeat_self t n ⟨{ (t.seats n).worker with process := p }, (t.seats n).holder?⟩
      refine h.same hopens rfl ?_ (drawn?_congr ?_ fun _ _ => rfl)
      · exact congrArg (·.worker.nextId) hseat
      · change ((t.setSeat n _).seats n).holder? = _
        rw [hseat]
    · exact h.elsewhere rfl (seats_setSeat_of_ne hn t _) fun _ _ => rfl

theorem posted_of_run {workers : Nat → Worker} {events : List Event} (hnext : (workers n).nextId = 1)
    (h : (opened workers).run events = some t) (hstays : (opened workers).StaysShut n events) :
    t.Posted n ((opened workers).mail n events) := by
  refine mail_induction (P := fun past t sent => (opened workers).StaysShut n past → t.Posted n sent) n
    (fun _ => posted_opened hnext) (fun past t t' x sent hpast horderly hposted hx hstays => ?_) h hstays
  obtain ⟨hbefore, hlast⟩ := staysShut_concat hpast hstays
  refine (hposted hbefore).step horderly hx fun hopen => ?_
  cases hshut : t.isShut n with
  | false => rfl
  | true =>
    rw [isShut_of_staysShut hlast hx hshut] at hopen
    cases hopen

end Traffic

end ScriptBench
