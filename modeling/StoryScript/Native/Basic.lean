set_option autoImplicit false

namespace StoryScript

inductive Native where
  | speak
  | say
  | character
  | choice
  | option
  | spawn
  | input
  | start
  | continue
  | restart
  | endgame
  | action
  | trigger
  | win
  | lose
  | add
  | inventory
  | use
  | item
  | setStat
  | modStat
  | getStat
  | checkStats
  | random
  | clock
deriving DecidableEq

namespace Native

def name : Native → String
  | .speak => "speak"
  | .say => "say"
  | .character => "character"
  | .choice => "choice"
  | .option => "option"
  | .spawn => "spawn"
  | .input => "input"
  | .start => "start"
  | .continue => "continue"
  | .restart => "restart"
  | .endgame => "endgame"
  | .action => "action"
  | .trigger => "trigger"
  | .win => "win"
  | .lose => "lose"
  | .add => "add"
  | .inventory => "inventory"
  | .use => "use"
  | .item => "item"
  | .setStat => "setStat"
  | .modStat => "modStat"
  | .getStat => "getStat"
  | .checkStats => "checkStats"
  | .random => "random"
  | .clock => "clock"

def arity : Native → Nat
  | .input | .continue | .restart | .inventory | .clock => 0
  | .speak | .character | .choice | .start | .endgame | .action | .trigger | .win | .lose
  | .add | .use | .item | .checkStats => 1
  | .say | .option | .spawn | .getStat | .random => 2
  | .setStat | .modStat => 3

def all : List Native :=
  [.speak, .say, .character, .choice, .option, .spawn, .input, .start, .continue, .restart,
    .endgame, .action, .trigger, .win, .lose, .add, .inventory, .use, .item, .setStat, .modStat,
    .getStat, .checkStats, .random, .clock]

def ofName? (name : String) : Option Native := all.find? fun native => native.name == name

end Native

end StoryScript
