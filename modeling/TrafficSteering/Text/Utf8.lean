namespace TrafficSteering.Text

def utf8 (text : String) : List UInt8 := text.toList.flatMap String.utf8EncodeChar

def ofUtf8? (bytes : List UInt8) : Option String := String.fromUTF8? (ByteArray.mk bytes.toArray)

end TrafficSteering.Text
