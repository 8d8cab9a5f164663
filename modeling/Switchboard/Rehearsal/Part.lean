import Switchboard.Access.Methods
import Switchboard.Chat.Methods
import Switchboard.Dispatch.Dispatcher
import Switchboard.Registry.Methods
import Switchboard.Sample.Service

/-!
# Parts

In a rehearsal the handlers of a service are played from scripts. A part is a
handler that can be played: a method of one of the services, in terms of the
values that its handler is given and answers with. Some methods have two parts,
one in terms of chats, features and rules and one in terms of their numbers.

Request and response are types that depend on the part, so that responders of
several parts can be kept together.
-/

namespace Switchboard.Rehearsal

/-- **A handler that can be played.** -/
inductive Part where
  | greet
  | version
  | odd
  | hidden
  | foreign
  | obtainChats
  | obtainChatsWire
  | selectChat
  | sendMessage
  | loadMessages
  | deleteHistory
  | deleteChat
  | askForConfirmation
  | askForConfirmationWire
  | notifyChange
  | notifyChangeWire
  | exchangeVersion
  | registerService
  | discover
deriving DecidableEq, Repr, Inhabited

namespace Part

/-- All parts. -/
def all : List Part :=
  [greet, version, odd, hidden, foreign, obtainChats, obtainChatsWire, selectChat, sendMessage,
    loadMessages, deleteHistory, deleteChat, askForConfirmation, askForConfirmationWire,
    notifyChange, notifyChangeWire, exchangeVersion, registerService, discover]

/-- The name of a part. -/
def name : Part → String
  | greet => "Greet"
  | version => "Version"
  | odd => "Odd"
  | hidden => "Hidden"
  | foreign => "Foreign"
  | obtainChats => "ObtainChats"
  | obtainChatsWire => "ObtainChatsWire"
  | selectChat => "SelectChat"
  | sendMessage => "SendMessage"
  | loadMessages => "LoadMessages"
  | deleteHistory => "DeleteHistory"
  | deleteChat => "DeleteChat"
  | askForConfirmation => "AskForConfirmation"
  | askForConfirmationWire => "AskForConfirmationWire"
  | notifyChange => "NotifyChange"
  | notifyChangeWire => "NotifyChangeWire"
  | exchangeVersion => "ExchangeVersion"
  | registerService => "RegisterService"
  | discover => "Discover"

/-- The name of the method that a part belongs to. -/
def methodName : Part → String
  | obtainChatsWire => obtainChats.name
  | askForConfirmationWire => askForConfirmation.name
  | notifyChangeWire => notifyChange.name
  | part => part.name

/-- What the handler is given besides the session. -/
abbrev Request : Part → Type
  | greet => String
  | version => Unit
  | odd => Int64
  | hidden => Unit
  | foreign => Unit
  | obtainChats => Unit
  | obtainChatsWire => Unit
  | selectChat => String
  | sendMessage => UInt32 × String
  | loadMessages => UInt32 × String
  | deleteHistory => Unit
  | deleteChat => Unit
  | askForConfirmation => Access.Feature × UInt32
  | askForConfirmationWire => Access.Question
  | notifyChange => Access.Feature × Access.Rule
  | notifyChangeWire => Access.Change
  | exchangeVersion => String
  | registerService => ServiceInformation
  | discover => Unit

/-- What the handler answers with. -/
abbrev Response : Part → Type
  | greet => String
  | version => String
  | odd => Int64
  | hidden => Unit
  | foreign => Unit
  | obtainChats => List Chat.Info
  | obtainChatsWire => Chat.Listing
  | selectChat => Unit
  | sendMessage => Unit
  | loadMessages => Unit
  | deleteHistory => Unit
  | deleteChat => Unit
  | askForConfirmation => Bool
  | askForConfirmationWire => Access.Answer
  | notifyChange => Unit
  | notifyChangeWire => Unit
  | exchangeVersion => String
  | registerService => Unit
  | discover => Registry.Discovered

variable {σ : Type}

/-- **The dispatcher with a part taken by a handler**, unless the part belongs to another
service. -/
def cast (d : Dispatcher σ) : (part : Part) → Handler σ part.Request part.Response →
    Option (Dispatcher σ)
  | greet, h => d.bind? Sample.greetMethod (h.adapt Sample.Greeting.name id)
  | version, h => d.bind? Sample.versionMethod h
  | odd, h => d.bind? Sample.oddMethod h
  | hidden, h => d.bind? Sample.hiddenMethod h
  | foreign, h => d.bind? Sample.foreignMethod h
  | obtainChats, h => d.bind? Chat.obtainChatsMethod (Chat.onObtainChats h)
  | obtainChatsWire, h => d.bind? Chat.obtainChatsMethod h
  | selectChat, h => d.bind? Chat.selectChatMethod (Chat.onSelectChat h)
  | sendMessage, h => d.bind? Chat.sendMessageMethod (Chat.onSendMessage h)
  | loadMessages, h => d.bind? Chat.loadMessagesMethod (Chat.onLoadMessages h)
  | deleteHistory, h => d.bind? Chat.deleteHistoryMethod h
  | deleteChat, h => d.bind? Chat.deleteChatMethod h
  | askForConfirmation, h =>
    d.bind? Access.askForConfirmationMethod (Access.onAskForConfirmation h)
  | askForConfirmationWire, h => d.bind? Access.askForConfirmationMethod h
  | notifyChange, h => d.bind? Access.notifyChangeMethod (Access.onNotifyChange h)
  | notifyChangeWire, h => d.bind? Access.notifyChangeMethod h
  | exchangeVersion, h => d.bind? Registry.exchangeVersionMethod (Registry.onExchangeVersion h)
  | registerService, h => d.bind? Registry.registerServiceMethod (Registry.onRegisterService h)
  | discover, h => d.bind? Registry.discoverMethod (Registry.onDiscover h)

end Part

/-! ## Services with parts -/

/-- The dispatcher of a sample service on which nothing is bound. -/
def sampleDispatcher : Dispatcher σ := ⟨.image, Sample.methods, []⟩

/-- The dispatcher of a chat service on which nothing is bound. -/
def chatDispatcher : Dispatcher σ := ⟨.chatIn, Chat.methods, []⟩

/-- The dispatcher of access control on which nothing is bound. -/
def accessDispatcher : Dispatcher σ := ⟨.accessControlOut, Access.methods, []⟩

/-- The dispatcher of a registry on which nothing is bound. -/
def registryDispatcher : Dispatcher σ := ⟨.registration, Registry.methods, []⟩

end Switchboard.Rehearsal
