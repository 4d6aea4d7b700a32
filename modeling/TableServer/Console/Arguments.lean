/-! Arguments of the command line. Options may stand before and behind the words of a command;
two dashes end them. -/
namespace TableServer.Console

inductive Command where
  | query (fixture request : String) (headers : List String) (data : Option String)
  | tables (fixture : String)
  | version

structure Words where
  words : List String := []
  headers : List String := []
  data : Option String := none

namespace Words

def addWord (w : Words) (word : String) : Words :=
  { w with words := w.words ++ [word] }

def addHeader (w : Words) (header : String) : Words :=
  { w with headers := w.headers ++ [header] }

def setData (w : Words) (data : String) : Words :=
  { w with data := some data }

def option? (word : String) : Option ((Words → String → Words) × Option String) :=
  match word.toList with
  | '-' :: '-' :: rest =>
      let name := String.ofList (rest.takeWhile (· ≠ '='))
      let attached := match rest.dropWhile (· ≠ '=') with
        | [] => none
        | _ :: text => some (String.ofList text)
      if name = "header" then some (addHeader, attached)
      else if name = "data" then some (setData, attached)
      else none
  | ['-', 'H'] => some (addHeader, none)
  | ['-', 'd'] => some (setData, none)
  | '-' :: 'H' :: text => some (addHeader, some (String.ofList text))
  | '-' :: 'd' :: text => some (setData, some (String.ofList text))
  | _ => none

def isDashed (word : String) : Bool :=
  match word.toList with
  | '-' :: _ :: _ => true
  | _ => false

def read (w : Words) : List String → Option Words
  | [] => some w
  | "--" :: rest => some (rest.foldl addWord w)
  | word :: rest =>
      match option? word with
      | some (add, some text) => read (add w text) rest
      | some (add, none) =>
          match rest with
          | [] => none
          | text :: rest => read (add w text) rest
      | none => if isDashed word then none else read (w.addWord word) rest

end Words

def Command.read? : List String → Option Command
  | "query" :: rest =>
      match Words.read {} rest with
      | some ⟨[fixture, request], headers, data⟩ => some (.query fixture request headers data)
      | _ => none
  | "tables" :: rest =>
      match Words.read {} rest with
      | some ⟨[fixture], [], none⟩ => some (.tables fixture)
      | _ => none
  | ["version"] => some .version
  | _ => none

end TableServer.Console
