/-
Connections whose bytes arrive in chunks.

* `Connection.Agrees`: the same state, up to the bytes that a closed connection has not used;
* `answerAll`, `take`: answering the messages that have been parsed, without a buffer;
* `receive_agrees`, `receiveAll_agrees`: a connection answers what is parsed of its bytes;
* `chunks_agree`: how the bytes are cut into chunks changes neither what is read nor what is sent.
-/
import LeaseQueue.Proofs.Wire.Stream
import LeaseQueue.Broker.Handler

namespace LeaseQueue

namespace Connection

open LeaseQueue.Frame (Parsed parse received)

variable {σ : Type} [Storage σ] {supply : Supply} {c d e : Connection σ} {p q : Parsed}

/-- Connections are in the same state. The bytes left in a closed one are never looked at. -/
structure Agrees (c d : Connection σ) : Prop where
  service : c.service = d.service
  sent : c.sent = d.sent
  requests : c.requests = d.requests
  created : c.created = d.created
  isOpen : c.isOpen = d.isOpen
  buffer : c.isOpen = true → c.buffer = d.buffer

omit [Storage σ] in
lemma Agrees.refl (c : Connection σ) : c.Agrees c := ⟨rfl, rfl, rfl, rfl, rfl, fun _ => rfl⟩

omit [Storage σ] in
lemma Agrees.symm (h : c.Agrees d) : d.Agrees c where
  service := h.service.symm
  sent := h.sent.symm
  requests := h.requests.symm
  created := h.created.symm
  isOpen := h.isOpen.symm
  buffer hopen := (h.buffer (h.isOpen.trans hopen)).symm

omit [Storage σ] in
lemma Agrees.trans (h : c.Agrees d) (h' : d.Agrees e) : c.Agrees e where
  service := h.service.trans h'.service
  sent := h.sent.trans h'.sent
  requests := h.requests.trans h'.requests
  created := h.created.trans h'.created
  isOpen := h.isOpen.trans h'.isOpen
  buffer hopen := (h.buffer hopen).trans (h'.buffer (h.isOpen ▸ hopen))

omit [Storage σ] in
/-- Of an open connection nothing is left out. -/
lemma Agrees.eq_of_open (h : c.Agrees d) (hopen : c.isOpen = true) : c = d := by
  obtain ⟨hservice, hsent, hrequests, hcreated, hisOpen, hbuffer⟩ := h
  cases c
  cases d
  simp_all

/-- A connection with another buffer. -/
def withBuffer (c : Connection σ) (b : ByteArray) : Connection σ := { c with buffer := b }

/-! ### Answering what has been parsed -/

/-- Answer messages one after the other, as long as the connection is open. -/
def answerAll (supply : Supply) (c : Connection σ) (messages : List Message) : Connection σ :=
  messages.foldl (fun c m => if c.isOpen then c.answer supply m else c) c

/-- Answer what has been parsed, and keep the bytes that are left. -/
def take (supply : Supply) (c : Connection σ) (p : Parsed) : Connection σ :=
  { c.answerAll supply p.messages with
    buffer := p.rest
    isOpen := (c.answerAll supply p.messages).isOpen && p.failure.isNone }

/-- Answering does not look at the buffer. -/
lemma answer_withBuffer (b : ByteArray) (m : Message) :
    (c.withBuffer b).answer supply m = (c.answer supply m).withBuffer b := by
  simp only [answer, withBuffer]
  split <;> rfl

@[simp] lemma answerAll_nil : c.answerAll supply [] = c := rfl

lemma answerAll_cons (hopen : c.isOpen = true) (m : Message) (l : List Message) :
    c.answerAll supply (m :: l) = (c.answer supply m).answerAll supply l := by
  simp only [answerAll, List.foldl_cons, hopen, if_true]

lemma answerAll_append (l l' : List Message) :
    c.answerAll supply (l ++ l') = (c.answerAll supply l).answerAll supply l' :=
  List.foldl_append

lemma answerAll_of_closed (supply : Supply) (hopen : c.isOpen = false) (l : List Message) :
    c.answerAll supply l = c := by
  induction l with
  | nil => rfl
  | cons m l ih => simpa only [answerAll, List.foldl_cons, hopen, Bool.false_eq_true, if_false]

lemma answerAll_withBuffer (b : ByteArray) (l : List Message) :
    (c.withBuffer b).answerAll supply l = (c.answerAll supply l).withBuffer b := by
  induction l generalizing c with
  | nil => rfl
  | cons m l ih =>
      cases hopen : c.isOpen with
      | true =>
          rw [answerAll_cons hopen, answerAll_cons (c := c.withBuffer b) hopen, answer_withBuffer,
            ih]
      | false =>
          rw [answerAll_of_closed supply hopen,
            answerAll_of_closed supply (c := c.withBuffer b) hopen]

/-- The bytes left by the parser are kept, whatever the buffer was. -/
lemma take_withBuffer (b : ByteArray) : (c.withBuffer b).take supply p = c.take supply p := by
  rw [take, take, answerAll_withBuffer]
  rfl

/-- A closed connection answers nothing. -/
lemma take_agrees_of_closed (hopen : c.isOpen = false) : (c.take supply p).Agrees c := by
  rw [take, answerAll_of_closed supply hopen]
  refine ⟨rfl, rfl, rfl, rfl, ?_, fun h => ?_⟩
  · rw [hopen, Bool.false_and]
  · rw [hopen, Bool.false_and] at h
    cases h

/-- Connections that parse the same answer the same. -/
lemma take_agrees (h : p.Agrees q) : (c.take supply p).Agrees (c.take supply q) := by
  rw [take, take, h.messages, h.failure]
  refine ⟨rfl, rfl, rfl, rfl, rfl, fun hopen => h.rest ?_⟩
  rw [h.failure]
  exact Option.isNone_iff_eq_none.mp (Bool.and_eq_true_iff.mp hopen).2

/-! ### The loop of the server -/

/-- With fuel for every byte the loop answers all that the buffer holds. -/
theorem drain_agrees {fuel : Nat} (hopen : c.isOpen = true) (hfuel : c.buffer.size < fuel) :
    (drain supply fuel c).Agrees (c.take supply (parse c.buffer)) := by
  induction fuel generalizing c with
  | zero => exact absurd hfuel (Nat.not_lt_zero _)
  | succ fuel ih =>
      rcases hdecode : Frame.decode c.buffer with ⟨e | _ | m, rest⟩
      · have hdrain : drain supply (fuel + 1) c = { c with buffer := rest, isOpen := false } := by
          simp only [drain, hopen, hdecode, Bool.not_true, Bool.false_eq_true, if_false]
        rw [hdrain, Frame.parse_eq_of_error hdecode, take, answerAll_nil]
        refine ⟨rfl, rfl, rfl, rfl, ?_, nofun⟩
        rw [hopen]
        rfl
      · have hdrain : drain supply (fuel + 1) c = { c with buffer := rest } := by
          simp only [drain, hopen, hdecode, Bool.not_true, Bool.false_eq_true, if_false]
        rw [hdrain, Frame.parse_eq_of_none hdecode, take, answerAll_nil]
        refine ⟨rfl, rfl, rfl, rfl, ?_, fun _ => rfl⟩
        rw [hopen]
        rfl
      · have hdrain : drain supply (fuel + 1) c =
            drain supply fuel ((c.answer supply m).withBuffer rest) := by
          rw [← answer_withBuffer]
          simp only [drain, hopen, hdecode, Bool.not_true, Bool.false_eq_true, if_false, withBuffer]
        have htake : c.take supply (parse c.buffer) =
            ((c.answer supply m).withBuffer rest).take supply (parse rest) := by
          rw [Frame.parse_eq_of_some hdecode, take_withBuffer, take, take, answerAll_cons hopen]
        rw [hdrain, htake]
        cases hanswer : (c.answer supply m).isOpen with
        | true =>
            have hrest := Frame.size_lt_of_decode hdecode
            exact ih hanswer (by change rest.size < fuel; omega)
        | false =>
            -- the answer did not fit in a frame, so the loop ends here
            have hclosed : ((c.answer supply m).withBuffer rest).isOpen = false := hanswer
            have hend : drain supply fuel ((c.answer supply m).withBuffer rest)
                = (c.answer supply m).withBuffer rest := by
              cases fuel with
              | zero => rfl
              | succ fuel => simp only [drain, hclosed, Bool.not_false, if_true]
            rw [hend]
            exact (take_agrees_of_closed hclosed).symm

lemma receive_of_closed (hopen : c.isOpen = false) (chunk : ByteArray) :
    c.receive supply chunk = c := by
  simp only [receive, hopen, Bool.not_false, if_true]

/-- A chunk makes an open connection answer what its buffer then holds. -/
lemma receive_agrees_take (supply : Supply) (hopen : c.isOpen = true) (chunk : ByteArray) :
    (c.receive supply chunk).Agrees (c.take supply (parse (c.buffer ++ chunk))) := by
  have hreceive : c.receive supply chunk =
      drain supply ((c.buffer ++ chunk).size + 1) (c.withBuffer (c.buffer ++ chunk)) := by
    simp only [receive, hopen, Bool.not_true, Bool.false_eq_true, if_false, withBuffer]
  rw [hreceive, ← take_withBuffer (c.buffer ++ chunk)]
  exact drain_agrees hopen (Nat.lt_succ_self _)

/-- A connection that has answered what was parsed of its bytes does so after one more chunk. -/
theorem receive_agrees (h : c.Agrees (d.take supply p)) (chunk : ByteArray) :
    (c.receive supply chunk).Agrees (d.take supply (p.feed chunk)) := by
  cases hopen : c.isOpen with
  | false =>
      rw [receive_of_closed hopen]
      refine h.trans ?_
      have hclosed : (d.answerAll supply p.messages).isOpen = false ∨ p.failure.isNone = false :=
        Bool.and_eq_false_iff.mp (h.isOpen.symm.trans hopen)
      cases hfailure : p.failure with
      | some e =>
          rw [Parsed.feed_of_failure hfailure]
          exact .refl _
      | none =>
          rw [hfailure] at hclosed
          have hclosed := hclosed.resolve_right (by simp)
          -- what the chunk adds to the messages is no longer answered
          have hmore := answerAll_of_closed supply hclosed
          rw [Parsed.feed_of_none hfailure, take, take, answerAll_append, hmore]
          refine ⟨rfl, rfl, rfl, rfl, ?_, fun hopen' => ?_⟩
          · rw [hclosed, Bool.false_and, Bool.false_and]
          · rw [hclosed, Bool.false_and] at hopen'
            cases hopen'
  | true =>
      have hreceive := receive_agrees_take supply hopen chunk
      obtain rfl := h.eq_of_open hopen
      obtain ⟨hanswer, hnone⟩ := Bool.and_eq_true_iff.mp hopen
      have hfailure := Option.isNone_iff_eq_none.mp hnone
      have htake : d.take supply p = (d.answerAll supply p.messages).withBuffer p.rest := by
        rw [take, hnone, Bool.and_true, withBuffer]
      rw [htake, take_withBuffer] at hreceive
      rw [Parsed.feed_of_none hfailure, htake]
      have happend : d.take supply ⟨p.messages ++ (parse (p.rest ++ chunk)).messages,
          (parse (p.rest ++ chunk)).failure, (parse (p.rest ++ chunk)).rest⟩
            = (d.answerAll supply p.messages).take supply (parse (p.rest ++ chunk)) := by
        rw [take, take, answerAll_append]
      rw [happend]
      exact hreceive

/-- A connection answers what is parsed of its bytes, chunk after chunk. -/
theorem receiveAll_agrees (s : Service σ) (supply : Supply) (chunks : List ByteArray) :
    ((start s).receiveAll supply chunks).Agrees ((start s).take supply (received chunks)) := by
  -- the chunks so far have been parsed into `p` and answered in `c`
  have hall : ∀ (c : Connection σ) (p : Parsed), c.Agrees ((start s).take supply p) →
      (c.receiveAll supply chunks).Agrees
        ((start s).take supply (chunks.foldl Parsed.feed p)) := by
    induction chunks with
    | nil => exact fun c p h => h
    | cons chunk chunks ih =>
        intro c p h
        exact ih _ _ (receive_agrees h chunk)
  exact hall _ _ (.refl _)

end Connection

/-- How a stream is cut into chunks does not matter. The same messages are read from it, with the
same failure and, without one, the same bytes left over; and a server that takes in the chunks
sends the same bytes and ends in the same state as one that takes in the whole. -/
theorem chunks_agree {σ : Type} [Storage σ] (s : Service σ) (supply : Supply)
    (chunks : List ByteArray) :
    (Frame.received chunks).Agrees (Frame.received [Body.joined id chunks]) ∧
    ((Connection.start s).receiveAll supply chunks).Agrees
      ((Connection.start s).receive supply (Body.joined id chunks)) := by
  have hparsed : (Frame.received chunks).Agrees (Frame.received [Body.joined id chunks]) := by
    have hwhole := Frame.received_agrees [Body.joined id chunks]
    rw [Body.joined, Body.joined, ByteArray.append_empty] at hwhole
    exact (Frame.received_agrees chunks).trans hwhole.symm
  refine ⟨hparsed, ?_⟩
  have hwhole := Connection.receiveAll_agrees s supply [Body.joined id chunks]
  exact (Connection.receiveAll_agrees s supply chunks).trans
    ((Connection.take_agrees hparsed).trans hwhole.symm)

end LeaseQueue
