import LooseEquality.Console.Reply

/-!
# Lines, one after the other

The standard input arrives as bytes, and its lines are evaluated in one session as they come in.  A
line ends at a line feed, or where the input ends if something is left there; a carriage return
right before the line feed belongs to the end of the line.

The input is cut before anything is decoded, and each line is decoded by itself.  So a line that is
no UTF-8 does not affect the lines before it; but it does end the conversation, and with it the
program fails.

* `Conversation.hear` — what comes of the next byte;
* `Conversation.finish` — what comes of the end of the input;
* `Conversation.run` — what is answered to a whole input;
* `Reply.interactive` — the same, in a new session.

The program takes the bytes from outside instead of from a list, and goes through the same steps.
-/

namespace LooseEquality

/-- A session that takes lines in, and the bytes of the line that is not complete yet, in
reverse. -/
structure Conversation where
  session : Session
  start : List UInt8

/-- What comes of a piece of the input. -/
inductive Turn where
  /-- Nothing is said, as the line goes on. -/
  | listen (next : Conversation)
  /-- A line was answered, and the conversation goes on. -/
  | answer (reply : Reply) (next : Conversation)
  /-- What was said ends the program. -/
  | stop (reply : Reply)

/-- What is said in a turn. -/
def Turn.reply : Turn → Reply
  | listen _ => .nothing
  | answer reply _ => reply
  | stop reply => reply

namespace Conversation

/-- The byte of a line feed. -/
def lineFeed : UInt8 := 0x0A

/-- The byte of a carriage return. -/
def carriageReturn : UInt8 := 0x0D

/-- A line, given in reverse, without the carriage return at its end. -/
def withoutReturn : List UInt8 → List UInt8
  | [] => []
  | b :: bs => if b = carriageReturn then bs.reverse else (b :: bs).reverse

/-- A conversation in which nothing was said yet. -/
def new (truthiness : Truthiness) : Conversation := ⟨.new truthiness, []⟩

/-- What comes of a whole line, given without its end. -/
def takeLine (s : Session) (bytes : List UInt8) (width : List Char → Nat) : Turn :=
  match String.fromUTF8? ⟨bytes.toArray⟩ with
  | none => .stop (.failure ReadFailure.notText.message)
  | some text =>
    match Reply.line s text width with
    | (reply, s₁) => if reply.status = 0 then .answer reply ⟨s₁, []⟩ else .stop reply

/-- What comes of the next byte. -/
def hear (c : Conversation) (b : UInt8) (width : List Char → Nat) : Turn :=
  if b = lineFeed then takeLine c.session (withoutReturn c.start) width
  else .listen { c with start := b :: c.start }

/-- What is said at the end of the input. -/
def finish (c : Conversation) (width : List Char → Nat) : Reply :=
  if c.start.isEmpty then .nothing else (takeLine c.session c.start.reverse width).reply

/-- What is said to the rest of an input. -/
def run (c : Conversation) (input : List UInt8) (width : List Char → Nat) : Reply :=
  match input with
  | [] => c.finish width
  | b :: rest =>
    match c.hear b width with
    | .listen next => next.run rest width
    | .answer reply next => reply.followedBy (next.run rest width)
    | .stop reply => reply

end Conversation

/-- Evaluate the lines of an input in a new session. -/
def Reply.interactive (truthiness : Truthiness) (input : ByteArray) (width : List Char → Nat) :
    Reply :=
  (Conversation.new truthiness).run input.data.toList width

end LooseEquality
