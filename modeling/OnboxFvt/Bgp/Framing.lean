import OnboxFvt.Bgp.Prefix
import OnboxFvt.Library.Wire

/-!
# Receiving messages from a stream

`_recv_msg` and `_recv_n` of `servers/bgp_speaker.py`.  What the socket delivers is a
list of arrivals: chunks of octets, in the pieces in which `recv` can return them, and
receive timeouts between them.  After the last arrival the peer has closed the
connection, the socket fails, or nothing but timeouts comes; in the last case a call that
waits for more does not return.
-/

namespace OnboxFvt.Bgp

open Library Wire

/-- A chunk has at least one octet; `recv` returns an empty one when the peer has closed. -/
inductive Arrival where
  | chunk (first : Byte) (more : List Byte)
  | timeout

inductive Ending where
  | closed
  | failed
  | silent
  deriving DecidableEq

/-- A call returns a value, it returns `None`, or it never returns. -/
inductive Reception (Value : Type) where
  | got (value : Value) (rest : List Arrival)
  | nothing
  | never

def Ending.reception {Value : Type} : Ending → Reception Value
  | .silent => .never
  | _ => .nothing

def arrivalOf : List Byte → List Arrival
  | [] => []
  | first :: more => [.chunk first more]

/-- The loop of `_recv_n`.  `recv` returns at most as many octets as are asked for and keeps
the others of the chunk for the next call. -/
def recvN (ending : Ending) (n : Nat) (buf : List Byte) : List Arrival → Reception (List Byte)
  | [] => if buf.length < n then ending.reception else .got buf []
  | .timeout :: rest =>
      if buf.length < n then recvN ending n buf rest else .got buf (.timeout :: rest)
  | .chunk first more :: rest =>
      if buf.length < n then
        if (first :: more).length ≤ n - buf.length then
          recvN ending n (buf ++ first :: more) rest
        else
          .got (buf ++ (first :: more).take (n - buf.length))
            (arrivalOf ((first :: more).drop (n - buf.length)) ++ rest)
      else .got buf (.chunk first more :: rest)

/-- `_recv_msg`: the type and the body. -/
def recvMsg (ending : Ending) (arrivals : List Arrival) : Reception (Byte × List Byte) :=
  match recvN ending 19 [] arrivals with
  | .got hdr rest =>
      let length := number ((hdr.drop 16).take 2)
      let mtype := hdr.getD 18 0
      if 19 < length then
        match recvN ending (length - 19) [] rest with
        | .got body rest => .got (mtype, body) rest
        | .nothing => .nothing
        | .never => .never
      else .got (mtype, []) rest
  | .nothing => .nothing
  | .never => .never

inductive Returned where
  | message (mtype : Byte) (body : List Byte)
  | nothing
  | never
  deriving DecidableEq

def Ending.returned : Ending → Returned
  | .silent => .never
  | _ => .nothing

/-- Successive calls; the main loop makes no other after one that returns `None`. -/
def recvMsgs (ending : Ending) : Nat → List Arrival → List Returned
  | 0, _ => []
  | calls + 1, arrivals =>
      match recvMsg ending arrivals with
      | .got (mtype, body) rest => .message mtype body :: recvMsgs ending calls rest
      | .nothing => [.nothing]
      | .never => [.never]

/-! ## What arrives -/

def Arrival.octets : Arrival → List Byte
  | .chunk first more => first :: more
  | .timeout => []

def octetsOf (arrivals : List Arrival) : List Byte :=
  arrivals.flatMap Arrival.octets

theorem octetsOf_cons (arrival : Arrival) (rest : List Arrival) :
    octetsOf (arrival :: rest) = arrival.octets ++ octetsOf rest :=
  List.flatMap_cons

theorem octetsOf_arrivalOf (octets : List Byte) (rest : List Arrival) :
    octetsOf (arrivalOf octets ++ rest) = octets ++ octetsOf rest := by
  cases octets with
  | nil => rfl
  | cons first more => exact octetsOf_cons (.chunk first more) rest

/-- With a full buffer nothing is taken. -/
theorem recvN_full {ending : Ending} {n : Nat} {buf : List Byte} (full : buf.length = n)
    (arrivals : List Arrival) : recvN ending n buf arrivals = .got buf arrivals := by
  have done : ¬ buf.length < n := by omega
  cases arrivals with
  | nil => rw [recvN, if_neg done]
  | cons arrival rest =>
      cases arrival with
      | timeout => rw [recvN, if_neg done]
      | chunk first others => rw [recvN, if_neg done]

/-- However the octets come, the loop takes exactly those it needs. -/
theorem recvN_enough {ending : Ending} {n : Nat} {buf : List Byte} {arrivals : List Arrival}
    (room : buf.length ≤ n) (enough : n ≤ buf.length + (octetsOf arrivals).length) :
    ∃ rest, recvN ending n buf arrivals =
        .got (buf ++ (octetsOf arrivals).take (n - buf.length)) rest ∧
      octetsOf rest = (octetsOf arrivals).drop (n - buf.length) := by
  induction arrivals generalizing buf with
  | nil =>
      have full : buf.length = n := by
        simp only [octetsOf, List.flatMap_nil, List.length_nil] at enough
        omega
      exact ⟨[], by simp [recvN_full full, full], by simp [full]⟩
  | cons arrival rest inductionHypothesis =>
      by_cases more : buf.length < n
      · cases arrival with
        | timeout =>
            rw [octetsOf_cons, Arrival.octets, List.nil_append] at enough ⊢
            rw [recvN, if_pos more]
            exact inductionHypothesis room enough
        | chunk first others =>
            rw [octetsOf_cons, Arrival.octets] at enough ⊢
            rw [recvN, if_pos more]
            by_cases small : (first :: others).length ≤ n - buf.length
            · rw [if_pos small]
              have roomLater : (buf ++ first :: others).length ≤ n := by
                rw [List.length_append]
                omega
              have enoughLater : n ≤ (buf ++ first :: others).length + (octetsOf rest).length := by
                simp only [List.length_append] at enough ⊢
                omega
              obtain ⟨left, received, remaining⟩ := inductionHypothesis roomLater enoughLater
              have needed : n - (buf ++ first :: others).length =
                  n - buf.length - (first :: others).length := by
                rw [List.length_append, Nat.sub_add_eq]
              refine ⟨left, ?_, ?_⟩
              · rw [received, needed, List.append_assoc, List.take_append,
                  List.take_of_length_le small]
              · rw [remaining, needed, List.drop_append, List.drop_of_length_le small,
                  List.nil_append]
            · rw [if_neg small]
              have inside : n - buf.length ≤ (first :: others).length := by omega
              refine ⟨_, by rw [List.take_append_of_le_length inside], ?_⟩
              rw [octetsOf_arrivalOf, List.drop_append_of_le_length inside]
      · have full : buf.length = n := by omega
        exact ⟨arrival :: rest, by simp [recvN_full full, full], by simp [full]⟩

theorem recvN_short {ending : Ending} {n : Nat} {buf : List Byte} {arrivals : List Arrival}
    (short : buf.length + (octetsOf arrivals).length < n) :
    recvN ending n buf arrivals = ending.reception := by
  induction arrivals generalizing buf with
  | nil =>
      rw [recvN, if_pos (by omega)]
  | cons arrival rest inductionHypothesis =>
      rw [octetsOf_cons, List.length_append] at short
      cases arrival with
      | timeout =>
          rw [recvN, if_pos (by omega)]
          apply inductionHypothesis
          rw [Arrival.octets, List.length_nil] at short
          omega
      | chunk first others =>
          rw [Arrival.octets] at short
          rw [recvN, if_pos (by omega), if_pos (by omega)]
          apply inductionHypothesis
          rw [List.length_append]
          omega

/-! ## Messages -/

/-- A message whose length field says how long it is; the receiver ignores the marker. -/
structure WellFormed where
  mark : List Byte
  mtype : Byte
  body : List Byte
  markLength : mark.length = 16
  fits : 19 + body.length < 65536

namespace WellFormed

def header (message : WellFormed) : List Byte :=
  message.mark ++ bigEndian 2 (19 + message.body.length) ++ [message.mtype]

def bytes (message : WellFormed) : List Byte :=
  message.header ++ message.body

variable (message : WellFormed)

theorem length_header : message.header.length = 19 := by
  simp [header, message.markLength]

theorem length_bytes : message.bytes.length = 19 + message.body.length := by
  rw [bytes, List.length_append, message.length_header]

theorem number_header :
    number ((message.header.drop 16).take 2) = 19 + message.body.length := by
  have fields : message.header =
      message.mark ++ (bigEndian 2 (19 + message.body.length) ++ [message.mtype]) :=
    List.append_assoc ..
  rw [fields, List.drop_left' message.markLength, List.take_left' (length_bigEndian _ _)]
  exact number_bigEndian message.fits

theorem mtype_header : message.header.getD 18 0 = message.mtype := by
  have front : (message.mark ++ bigEndian 2 (19 + message.body.length)).length = 18 := by
    simp [message.markLength]
  unfold header
  rw [List.getD_eq_getElem?_getD, List.getElem?_append_right (Nat.le_of_eq front), front]
  rfl

end WellFormed

variable {ending : Ending} {arrivals : List Arrival}

theorem recvMsg_message {message : WellFormed} {later : List Byte}
    (sent : octetsOf arrivals = message.bytes ++ later) :
    ∃ rest, recvMsg ending arrivals = .got (message.mtype, message.body) rest ∧
      octetsOf rest = later := by
  have total : (octetsOf arrivals).length = 19 + message.body.length + later.length := by
    rw [sent, List.length_append, message.length_bytes]
  obtain ⟨afterHeader, header, headerRest⟩ :=
    @recvN_enough ending 19 [] arrivals (Nat.zero_le 19) (by rw [total]; simp; omega)
  have split : octetsOf arrivals = message.header ++ (message.body ++ later) := by
    rw [sent, WellFormed.bytes, List.append_assoc]
  rw [List.nil_append, List.length_nil, Nat.sub_zero, split,
    List.take_left' message.length_header] at header
  rw [List.length_nil, Nat.sub_zero, split, List.drop_left' message.length_header] at headerRest
  unfold recvMsg
  rw [header]
  simp only [message.number_header, message.mtype_header]
  by_cases empty : message.body = []
  · refine ⟨afterHeader, ?_, ?_⟩
    · rw [empty, if_neg (by simp)]
    · rw [headerRest, empty, List.nil_append]
  · have positive : 0 < message.body.length := List.length_pos_of_ne_nil empty
    obtain ⟨afterBody, body, bodyRest⟩ :=
      @recvN_enough ending (19 + message.body.length - 19) [] afterHeader (Nat.zero_le _)
        (by rw [headerRest, List.length_append, List.length_nil]; omega)
    rw [List.nil_append, List.length_nil, Nat.sub_zero, headerRest, Nat.add_sub_cancel_left,
      List.take_left] at body
    rw [List.length_nil, Nat.sub_zero, headerRest, Nat.add_sub_cancel_left,
      List.drop_left] at bodyRest
    refine ⟨afterBody, ?_, bodyRest⟩
    rw [if_pos (by omega), Nat.add_sub_cancel_left, body]

theorem recvMsg_cut {message : WellFormed} {cut : List Byte} (begins : cut <+: message.bytes)
    (short : cut.length < message.bytes.length) (sent : octetsOf arrivals = cut) :
    recvMsg ending arrivals = ending.reception := by
  unfold recvMsg
  by_cases header : cut.length < 19
  · have stopped := @recvN_short ending 19 [] arrivals (by rw [sent]; simpa using header)
    rw [stopped]
    cases ending <;> rfl
  · obtain ⟨afterHeader, received, headerRest⟩ :=
      @recvN_enough ending 19 [] arrivals (Nat.zero_le 19) (by rw [sent]; simp; omega)
    have read : (octetsOf arrivals).take 19 = message.header := by
      obtain ⟨missing, whole⟩ := begins
      have inHeader : message.bytes.take 19 = message.header :=
        List.take_left' message.length_header
      rw [← whole, List.take_append_of_le_length (by omega)] at inHeader
      rw [sent]
      exact inHeader
    rw [List.nil_append, List.length_nil, Nat.sub_zero, read] at received
    rw [List.length_nil, Nat.sub_zero, sent] at headerRest
    rw [message.length_bytes] at short
    rw [received]
    simp only [message.number_header, message.mtype_header]
    have stopped := @recvN_short ending (19 + message.body.length - 19) [] afterHeader
      (by rw [headerRest, List.length_drop, List.length_nil]; omega)
    rw [if_pos (by omega), stopped]
    cases ending <;> rfl

/-- Whatever the chunks and timeouts: the messages sent are returned one by one, and the
message that the end of the stream cuts off is not. -/
theorem framing_exact (messages : List WellFormed) (last : WellFormed) (cut : List Byte)
    (begins : cut <+: last.bytes) (short : cut.length < last.bytes.length) (ending : Ending)
    (arrivals : List Arrival)
    (sent : octetsOf arrivals = messages.flatMap WellFormed.bytes ++ cut) :
    recvMsgs ending (messages.length + 1) arrivals =
      messages.map (fun message => .message message.mtype message.body) ++ [ending.returned] := by
  induction messages generalizing arrivals with
  | nil =>
      rw [List.length_nil, recvMsgs, recvMsg_cut begins short sent]
      cases ending <;> rfl
  | cons message rest inductionHypothesis =>
      rw [List.flatMap_cons, List.append_assoc] at sent
      obtain ⟨left, received, remaining⟩ := @recvMsg_message ending _ _ _ sent
      rw [List.length_cons, recvMsgs, received, List.map_cons, List.cons_append]
      simp only
      rw [inductionHypothesis left remaining]

/-- A KEEPALIVE in two chunks with a timeout in between, then an UPDATE cut off by the close. -/
theorem framing_exact_keepalive :
    recvMsgs .closed 2
        [.chunk 255 (List.replicate 15 255 ++ [0]), .timeout, .chunk 19 [4],
          .chunk 255 (List.replicate 15 255 ++ [0, 23, 2, 0])] =
      [.message 4 [], .nothing] :=
  framing_exact [⟨List.replicate 16 255, 4, [], rfl, by decide⟩]
    ⟨List.replicate 16 255, 2, [0, 0, 0, 0], rfl, by decide⟩
    (List.replicate 16 255 ++ [0, 23, 2, 0]) ⟨[0, 0, 0], rfl⟩ (by decide) .closed _ (by decide)

end OnboxFvt.Bgp
