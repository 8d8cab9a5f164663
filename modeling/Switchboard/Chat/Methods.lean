import Switchboard.Chat.Message
import Switchboard.Dispatch.Call
import Switchboard.Dispatch.Dispatcher

/-!
# The methods of a chat service

For each method there is the call that a client makes, and the handler of a
server in the same terms. All of them belong to a session.
-/

namespace Switchboard.Chat

/-- A method of a chat service. -/
def chatMethod {Req Resp : Type} [JsonCodec Req] [JsonCodec Resp] (name : String)
    (functionId : UInt32) : Method Req Resp :=
  .json ⟨.chatIn, name, functionId, true⟩

/-- Tells the chats of a session. -/
def obtainChatsMethod : Method Unit Listing := chatMethod "ObtainChats" 1

/-- Shows a chat. -/
def selectChatMethod : Method Selection Unit := chatMethod "SelectChat" 2

/-- Sends a message to the chat. -/
def sendMessageMethod : Method Message Unit := chatMethod "SendMessage" 3

/-- Loads older messages. -/
def loadMessagesMethod : Method HistoryRequest Unit := chatMethod "LoadMessages" 4

/-- Deletes the messages of the chat. -/
def deleteHistoryMethod : Method Unit Unit := chatMethod "DeleteHistory" 5

/-- Deletes the chat. -/
def deleteChatMethod : Method Unit Unit := chatMethod "DeleteChat" 6

/-- The methods of a chat service. -/
def methods : List MethodKind :=
  [obtainChatsMethod.kind, selectChatMethod.kind, sendMessageMethod.kind, loadMessagesMethod.kind,
    deleteHistoryMethod.kind, deleteChatMethod.kind]

/-! ## Calls -/

/-- **Asks for the chats of a session.** -/
def obtainChats : Call Unit Listing (List Info) where
  method := obtainChatsMethod
  request := ()
  interpret := Listing.toInfos

/-- Asks to show a chat. -/
def selectChat (chatId : String) : Call Selection Unit Unit where
  method := selectChatMethod
  request := ⟨chatId⟩
  interpret := .ok

/-- Sends a message. -/
def sendMessage (localId : UInt32) (content : String) : Call Message Unit Unit where
  method := sendMessageMethod
  request := ⟨localId, content⟩
  interpret := .ok

/-- **Asks to load messages** before a given one; there has to be a number of them. -/
def loadMessages (count : UInt32) (lastId : String) : Call HistoryRequest Unit Unit where
  method := loadMessagesMethod
  request := ⟨count, lastId⟩
  accepts request := request.count ≠ 0
  interpret := .ok

/-- Asks to delete the messages. -/
def deleteHistory : Call Unit Unit Unit where
  method := deleteHistoryMethod
  request := ()
  interpret := .ok

/-- Asks to delete the chat. -/
def deleteChat : Call Unit Unit Unit where
  method := deleteChatMethod
  request := ()
  interpret := .ok

/-! ## Handlers -/

variable {σ : Type}

/-- A handler that tells the chats of a session. -/
def onObtainChats (h : Handler σ Unit (List Info)) : Handler σ Unit Listing :=
  h.adapt id Listing.ofInfos

/-- A handler that shows a chat. -/
def onSelectChat (h : Handler σ String Unit) : Handler σ Selection Unit :=
  h.adapt Selection.chatId id

/-- A handler that sends a message, given its number and its content. -/
def onSendMessage (h : Handler σ (UInt32 × String) Unit) : Handler σ Message Unit :=
  h.adapt (fun message => (message.localId, message.content)) id

/-- A handler that loads messages, given how many and before which one. -/
def onLoadMessages (h : Handler σ (UInt32 × String) Unit) : Handler σ HistoryRequest Unit :=
  h.adapt (fun request => (request.count, request.lastId)) id

/-- **A handler for each method.** -/
structure Handlers (σ : Type) where
  obtainChats : Handler σ Unit (List Info)
  selectChat : Handler σ String Unit
  sendMessage : Handler σ (UInt32 × String) Unit
  loadMessages : Handler σ (UInt32 × String) Unit
  deleteHistory : Handler σ Unit Unit
  deleteChat : Handler σ Unit Unit

/-- **The dispatcher of a chat service** on which all handlers are bound. -/
def Handlers.dispatcher (h : Handlers σ) : Dispatcher σ :=
  let bare : Dispatcher σ := { service := .chatIn, methods }
  let withChats := bare.bind obtainChatsMethod (onObtainChats h.obtainChats) rfl
  let withSelection := withChats.bind selectChatMethod (onSelectChat h.selectChat) rfl
  let withSending := withSelection.bind sendMessageMethod (onSendMessage h.sendMessage) rfl
  let withLoading := withSending.bind loadMessagesMethod (onLoadMessages h.loadMessages) rfl
  let withDeletion := withLoading.bind deleteHistoryMethod h.deleteHistory rfl
  withDeletion.bind deleteChatMethod h.deleteChat rfl

end Switchboard.Chat
