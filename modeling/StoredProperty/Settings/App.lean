import StoredProperty.Declaration
import StoredProperty.Settings.Property

/-!
# The settings of an application

Three properties: whether reminders are delivered, who is signed in (in a store of its own, for account data), and how
many items were deleted. Deletions are counted one by one, as long as the count is an integer in range. The
declarations describe the same properties, and one that cannot be expanded.
-/

namespace StoredProperty.App

/-- The name of the store that holds account data. -/
def accountName : String := "com.example.account"

def fresh : Stores := ⟨.named accountName, .standard⟩

def enableNotification : Property := ⟨.bool false, "enable_notification", .standard⟩

def userId : Property := ⟨.string "", "user_id", .own⟩

def deleteCount : Property := ⟨.int 0, "delete_count", .standard⟩

def property? (name : String) : Option Property :=
  [("enable_notification", enableNotification), ("user_id", userId), ("delete_count", deleteCount)].lookup name

def deletions (s : Stores) : Int64 := (deleteCount.get s).asInteger

/-- One more deletion: the new total, and the stores that hold it. It is refused when the total would leave the range of
integers. -/
def recordDelete? (s : Stores) : Option (Int64 × Stores) :=
  (Text.toInt64? ((deletions s).toInt + 1)).map fun total => (total, deleteCount.set (.int total) s)

/-- What is done to the settings. -/
inductive Action where
  | enableNotification (b : Bool)
  | setUser (user : String)
  | setDeleteCount (n : Int64)
  | recordDelete
  deriving DecidableEq

/-- The property that an action sets, and its new value. One more deletion may be refused. -/
def Action.write? (s : Stores) : Action → Option (Property × StoredValue)
  | enableNotification b => some (App.enableNotification, .bool b)
  | setUser user => some (userId, .string user)
  | setDeleteCount n => some (deleteCount, .int n)
  | recordDelete => (recordDelete? s).map fun (total, _) => (deleteCount, .int total)

/-- The stores after an action, and its events. -/
def perform? (s : Stores) (a : Action) : Option (Stores × List StoreEvent) :=
  (a.write? s).map fun (p, v) => (p.set v s, p.setEvents v s)

/-- The stores after the actions up to the first that is refused, and their events. -/
def performAll (s : Stores) : List Action → Stores × List StoreEvent
  | [] => (s, [])
  | a :: rest =>
    match perform? s a with
    | none => (s, [])
    | some (after, events) =>
      let (last, more) := performAll after rest
      (last, events ++ more)

def signedIn (s : Stores) : Bool := userId.get s != .string ""

def declarations : List Declaration :=
  [⟨"enable_notification",
      some [⟨some "default_value", .bool false, "false"⟩,
        ⟨some "key", .str "enable_notification", "\"enable_notification\""⟩]⟩,
   ⟨"user_id",
      some [⟨some "default_value", .str "", "\"\""⟩,
        ⟨some "store", .unsupported "account_store()", "account_store()"⟩]⟩,
   ⟨"delete_count", some [⟨some "default_value", .int 0, "0"⟩]⟩,
   ⟨"tags", some [⟨some "default_value", .unsupported "[]", "[]"⟩]⟩]

end StoredProperty.App
