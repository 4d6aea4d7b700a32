import TableServer.Service.Trigger

/-! A service: its settings, its store, its handlers and its trigger. -/
namespace TableServer

structure Service where
  settings : Settings
  store : Store
  procedures : Registry Procedure
  functions : Registry EdgeFunction
  trigger : Option Trigger

namespace Service

def ofStore (settings : Settings) (store : Store) : Service :=
  ⟨settings, store, [], [], none⟩

def withStore (s : Service) (store : Store) : Service :=
  { s with store := store }

def reset (s : Service) : Service :=
  { s with store := .empty, procedures := [], functions := [] }

end Service

end TableServer
